import JourneyCost.Proofs.Map.Reading
import JourneyCost.Route.Resolution

/-!
# Trips to the map service

Once both ends of a journey have positions, asking for directions is one of seven trips: a single
call, or a second attempt after the ends were moved to the road, or to the places nearest to them,
as far as replies allow.  This file lists them with their outcomes.
-/

namespace JourneyCost.Route

open Net Map

/-- Directions that were refused because an end is off the road. -/
def OffRoad (client : Client) (reply : Reply) : Prop :=
  ∃ answer, client.directionsIn reply = .ok answer ∧ answer.status ≠ 200 ∧
    Client.isUnroutable client.provider answer = true

/-- The outcome of a first call for directions that is not tried again. -/
def firstOutcome (client : Client) (reply : Reply) : Except Fault Directions := do
  let answer ← client.directionsIn reply
  if answer.isOk then return answer
  else throw (.providerFailed "Directions request failed" (some answer.status)
    (statusReason answer.status))

/-- The outcome of a second call for directions. -/
def secondOutcome (client : Client) (reply : Reply) : Except Fault Directions := do
  let answer ← client.directionsIn reply
  if answer.isOk then return answer
  else throw (.routeUnavailable "Directions retry after snapping failed"
    (statusReason answer.status))

/-- The outcome if the ends cannot be moved. -/
def notMoved : Except Fault Directions :=
  .error (.routeUnavailable "Could not snap points to road" "could_not_snap_points")

/-- A complete trip from one position to another, with its outcome. -/
inductive Trip (client : Client) (start stop : Point) :
    List Exchange → Except Fault Directions → Prop
  /-- The first answer settles it. -/
  | direct {asked : Reply} :
      ¬ OffRoad client asked →
      Trip client start stop [⟨client.directionsCall start stop, asked⟩]
        (firstOutcome client asked)
  /-- The positions on the road cannot be read. -/
  | stranded {asked snapped : Reply} {fault : Fault} :
      OffRoad client asked → client.snappedIn snapped = .error fault →
      Trip client start stop [⟨client.directionsCall start stop, asked⟩,
        ⟨client.snapCall start stop, snapped⟩] (.error fault)
  /-- Both ends were moved to the road. -/
  | moved {asked snapped again : Reply} {first second : Point} {more : List Point} :
      OffRoad client asked → client.snappedIn snapped = .ok (first :: second :: more) →
      Trip client start stop [⟨client.directionsCall start stop, asked⟩,
        ⟨client.snapCall start stop, snapped⟩,
        ⟨client.directionsCall first ((second :: more).getLastD second), again⟩]
        (secondOutcome client again)
  /-- The place nearest to the origin cannot be read. -/
  | strandedStart {asked snapped nearStart : Reply} {points : List Point} {fault : Fault} :
      OffRoad client asked → client.snappedIn snapped = .ok points → points.length < 2 →
      client.nearestIn nearStart = .error fault →
      Trip client start stop [⟨client.directionsCall start stop, asked⟩,
        ⟨client.snapCall start stop, snapped⟩, ⟨client.reverseCall start, nearStart⟩]
        (.error fault)
  /-- The place nearest to the destination cannot be read. -/
  | strandedStop {asked snapped nearStart nearStop : Reply} {points : List Point}
      {near : Option Point} {fault : Fault} :
      OffRoad client asked → client.snappedIn snapped = .ok points → points.length < 2 →
      client.nearestIn nearStart = .ok near → client.nearestIn nearStop = .error fault →
      Trip client start stop [⟨client.directionsCall start stop, asked⟩,
        ⟨client.snapCall start stop, snapped⟩, ⟨client.reverseCall start, nearStart⟩,
        ⟨client.reverseCall stop, nearStop⟩] (.error fault)
  /-- There is no place near one of the ends. -/
  | remote {asked snapped nearStart nearStop : Reply} {points : List Point}
      {near far : Option Point} :
      OffRoad client asked → client.snappedIn snapped = .ok points → points.length < 2 →
      client.nearestIn nearStart = .ok near → client.nearestIn nearStop = .ok far →
      near = none ∨ far = none →
      Trip client start stop [⟨client.directionsCall start stop, asked⟩,
        ⟨client.snapCall start stop, snapped⟩, ⟨client.reverseCall start, nearStart⟩,
        ⟨client.reverseCall stop, nearStop⟩] notMoved
  /-- Both ends were moved to the places nearest to them. -/
  | placed {asked snapped nearStart nearStop again : Reply} {points : List Point}
      {near far : Point} :
      OffRoad client asked → client.snappedIn snapped = .ok points → points.length < 2 →
      client.nearestIn nearStart = .ok (some near) →
      client.nearestIn nearStop = .ok (some far) →
      Trip client start stop [⟨client.directionsCall start stop, asked⟩,
        ⟨client.snapCall start stop, snapped⟩, ⟨client.reverseCall start, nearStart⟩,
        ⟨client.reverseCall stop, nearStop⟩, ⟨client.directionsCall near far, again⟩]
        (secondOutcome client again)

/-- The second attempt at directions, from positions on the road. -/
def again (client : Client) (ends : Option (Point × Point)) : Work Wire Directions :=
  match ends with
  | none => Work.fail (.routeUnavailable "Could not snap points to road" "could_not_snap_points")
  | some (start, stop) => do
    let answer ← client.directions start stop
    if answer.isOk then return answer
    else Work.fail (.routeUnavailable "Directions retry after snapping failed"
      (statusReason answer.status))

theorem run_again_some (client : Client) (start stop : Point) (wire : Wire) :
    (again client (some (start, stop))).run wire =
      (secondOutcome client wire.nextReply,
        wire.afterCall (client.directionsCall start stop)) := by
  unfold again secondOutcome
  simp only [Work.run_bind, Client.run_directions]
  cases client.directionsIn wire.nextReply with
  | error fault => rfl
  | ok answer =>
      simp only [ok_bind]
      split <;> rfl

theorem retry_of_unroutable {client : Client} {failed : Directions} (start stop : Point)
    (unroutable : Client.isUnroutable client.provider failed = true) :
    retry client failed start stop = onRoad client start stop >>= again client := by
  unfold retry
  simp only [unroutable, Bool.not_true, Bool.false_eq_true, if_false]
  congr 1

/-- The places nearest to two positions, if there are both. -/
def nearby (client : Client) (start stop : Point) : Work Wire (Option (Point × Point)) := do
  let near ← client.reverse start
  let far ← client.reverse stop
  return do return (← near, ← far)

/-- The trips on which the ends are moved to the places nearest to them. -/
theorem exists_trip_of_few (client : Client) (start stop : Point) {wire wire₂ : Wire}
    {asked snapped : Reply} {points : List Point} (offRoad : OffRoad client asked)
    (read : client.snappedIn snapped = .ok points) (few : points.length < 2)
    (two : wire.Carries [⟨client.directionsCall start stop, asked⟩,
      ⟨client.snapCall start stop, snapped⟩] wire₂) :
    ∃ session outcome after,
      (nearby client start stop >>= again client).run wire₂ = (outcome, after) ∧
        wire.Carries session after ∧ Trip client start stop session outcome := by
  have three := two.append (Wire.carries_afterCall wire₂ (client.reverseCall start))
  rw [Work.run_bind, nearby, Work.run_bind, Client.run_reverse]
  generalize wire₂.nextReply = nearStart at three ⊢
  generalize wire₂.afterCall (client.reverseCall start) = wire₃ at three ⊢
  cases readStart : client.nearestIn nearStart with
  | error fault => exact ⟨_, _, _, rfl, three, .strandedStart offRoad read few readStart⟩
  | ok near =>
      have four := three.append (Wire.carries_afterCall wire₃ (client.reverseCall stop))
      simp only [Work.run_bind, Client.run_reverse]
      generalize wire₃.nextReply = nearStop at four ⊢
      generalize wire₃.afterCall (client.reverseCall stop) = wire₄ at four ⊢
      cases readStop : client.nearestIn nearStop with
      | error fault =>
          exact ⟨_, _, _, rfl, four, .strandedStop offRoad read few readStart readStop⟩
      | ok far =>
          match near, far with
          | none, far =>
              exact ⟨_, _, _, rfl, four,
                .remote offRoad read few readStart readStop (.inl rfl)⟩
          | some near, none =>
              exact ⟨_, _, _, rfl, four,
                .remote offRoad read few readStart readStop (.inr rfl)⟩
          | some near, some far =>
              have five := four.append
                (Wire.carries_afterCall wire₄ (client.directionsCall near far))
              exact ⟨_, _, _, run_again_some client near far wire₄, five,
                .placed offRoad read few readStart readStop⟩

/-- The trips on which the first directions are refused. -/
theorem exists_trip_of_offRoad (client : Client) (start stop : Point) {wire : Wire}
    (offRoad : OffRoad client wire.nextReply) :
    ∃ session outcome after,
      (onRoad client start stop >>= again client).run
          (wire.afterCall (client.directionsCall start stop)) = (outcome, after) ∧
        wire.Carries session after ∧ Trip client start stop session outcome := by
  have one := Wire.carries_afterCall wire (client.directionsCall start stop)
  generalize wire.afterCall (client.directionsCall start stop) = wire₁ at one ⊢
  have two := one.append (Wire.carries_afterCall wire₁ (client.snapCall start stop))
  rw [Work.run_bind, onRoad, Work.run_bind, Client.run_snap]
  generalize wire₁.nextReply = snapped at two ⊢
  generalize wire₁.afterCall (client.snapCall start stop) = wire₂ at two ⊢
  cases read : client.snappedIn snapped with
  | error fault => exact ⟨_, _, _, rfl, two, .stranded offRoad read⟩
  | ok points =>
      match points, read with
      | [], read => exact exists_trip_of_few client start stop offRoad read (by simp) two
      | [point], read => exact exists_trip_of_few client start stop offRoad read (by simp) two
      | first :: second :: more, read =>
          have three := two.append (Wire.carries_afterCall wire₂
            (client.directionsCall first ((second :: more).getLastD second)))
          exact ⟨_, _, _, run_again_some client first _ wire₂, three, .moved offRoad read⟩

theorem run_ask_of_not_offRoad {client : Client} {wire : Wire} (start stop : Point)
    (settled : ¬ OffRoad client wire.nextReply) :
    (ask client start stop).run wire =
      (firstOutcome client wire.nextReply, wire.afterCall (client.directionsCall start stop)) := by
  rw [ask, Work.run_bind, Client.run_directions, firstOutcome]
  cases read : client.directionsIn wire.nextReply with
  | error fault => rfl
  | ok answer =>
      simp only [ok_bind]
      by_cases given : answer.isOk = true
      · simp only [given, if_true]
        rfl
      · have refused : answer.status ≠ 200 := fun ok => given (beq_iff_eq.mpr ok)
        have routable : ¬ Client.isUnroutable client.provider answer = true :=
          fun unroutable => settled ⟨answer, read, refused, unroutable⟩
        simp only [given, retry, routable, Bool.not_false, if_true, Bool.false_eq_true, if_false]
        rfl

theorem run_ask_of_offRoad {client : Client} {wire : Wire} (start stop : Point)
    (offRoad : OffRoad client wire.nextReply) :
    (ask client start stop).run wire =
      (onRoad client start stop >>= again client).run
        (wire.afterCall (client.directionsCall start stop)) := by
  obtain ⟨answer, read, refused, unroutable⟩ := offRoad
  have notGiven : answer.isOk = false := beq_eq_false_iff_ne.mpr refused
  rw [ask, Work.run_bind, Client.run_directions, read]
  simp only [notGiven, Bool.false_eq_true, if_false, retry_of_unroutable start stop unroutable]

/-- Asking for directions is one of the trips. -/
theorem exists_trip (client : Client) (start stop : Point) (wire : Wire) :
    ∃ session outcome after, (ask client start stop).run wire = (outcome, after) ∧
      wire.Carries session after ∧ Trip client start stop session outcome := by
  by_cases offRoad : OffRoad client wire.nextReply
  · rw [run_ask_of_offRoad start stop offRoad]
    exact exists_trip_of_offRoad client start stop offRoad
  · exact ⟨_, _, _, run_ask_of_not_offRoad start stop offRoad,
      Wire.carries_afterCall wire _, .direct offRoad⟩

end JourneyCost.Route
