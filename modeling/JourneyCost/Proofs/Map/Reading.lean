import JourneyCost.Map.Ask
import JourneyCost.Proofs.Net.Session

/-!
# What replies say

Each operation of a client is one call, and a reading of what came of it.  Only the look-up of a
place uses the rest of the wire: a place that is known needs no call, and one that is found may be
kept.
-/

namespace JourneyCost.Map

open Net

namespace Client

@[simp] theorem purpose_geocodeCall (client : Client) (query : String) :
    (client.geocodeCall query).purpose = .geocode := by
  unfold geocodeCall
  split <;> rfl

@[simp] theorem purpose_directionsCall (client : Client) (origin destination : Point) :
    (client.directionsCall origin destination).purpose = .directions := by
  unfold directionsCall
  split <;> rfl

@[simp] theorem purpose_snapCall (client : Client) (origin destination : Point) :
    (client.snapCall origin destination).purpose = .snap := by
  unfold snapCall
  split <;> rfl

@[simp] theorem purpose_reverseCall (client : Client) (p : Point) :
    (client.reverseCall p).purpose = .reverse := by
  unfold reverseCall
  split <;> rfl

/-- The status and the bytes of a reply. -/
def contents (client : Client) : Reply → Except Fault (Int × Bytes)
  | .answer status body => .ok (status, body)
  | .dropped kind =>
    .error (.providerFailed (client.provider.name ++ " request failed: " ++ kind) none
      (client.provider.name ++ "_transport_error"))
  | .badAddress => .error .malformedAddress

/-- The place in a reply to a look-up. -/
def placeIn (client : Client) (reply : Reply) : Except Fault (Option Point) := do
  let (status, body) ← client.contents reply
  client.readPlace status body

/-- The directions in a reply. -/
def directionsIn (client : Client) (reply : Reply) : Except Fault Directions := do
  let (status, body) ← client.contents reply
  return ⟨status, Text.ofBytesLossy body⟩

/-- The positions on the road in a reply. -/
def snappedIn (client : Client) (reply : Reply) : Except Fault (List Point) := do
  let items ← recoverWhen isForgiven (.list []) do
    let (status, body) ← client.contents reply
    client.readSnapped status body
  let elements ← items.elements
  return (← elements.mapM (snappedPoint client.provider)).filterMap id

/-- The place nearest to a position in a reply. -/
def nearestIn (client : Client) (reply : Reply) : Except Fault (Option Point) :=
  recoverWhen isForgiven none do
    let (status, body) ← client.contents reply
    if status != 200 then return none
    Geo.firstFeature (← Json.readBytes body)

theorem run_answerTo (client : Client) (call : Call) (wire : Wire) :
    (client.answerTo call).run wire = (client.contents wire.nextReply, wire.afterCall call) := by
  rw [answerTo, Work.run_bind, Wire.run_send]
  cases wire.nextReply with
  | answer status body => rfl
  | dropped kind => rfl
  | badAddress => rfl

theorem run_directions (client : Client) (origin destination : Point) (wire : Wire) :
    (client.directions origin destination).run wire =
      (client.directionsIn wire.nextReply,
        wire.afterCall (client.directionsCall origin destination)) := by
  rw [directions, Work.run_bind, run_answerTo, directionsIn]
  cases client.contents wire.nextReply with
  | ok content => rfl
  | error fault => rfl

/-- Reading the answer to a call in a way that does not depend on the wire. -/
theorem run_answerTo_ofExcept {α : Type} (client : Client) (call : Call)
    (read : Int × Bytes → Except Fault α) (wire : Wire) :
    (client.answerTo call >>= fun content => Work.ofExcept (read content)).run wire =
      (client.contents wire.nextReply >>= read, wire.afterCall call) := by
  rw [Work.run_bind, run_answerTo]
  cases client.contents wire.nextReply with
  | ok content => rfl
  | error fault => rfl

theorem run_snap (client : Client) (origin destination : Point) (wire : Wire) :
    (client.snap origin destination).run wire =
      (client.snappedIn wire.nextReply, wire.afterCall (client.snapCall origin destination)) := by
  rw [snap, Work.run_bind, Work.run_recover, run_answerTo_ofExcept client _ fun content =>
    client.readSnapped content.1 content.2]
  unfold snappedIn
  cases recoverWhen isForgiven (Json.list []) (client.contents wire.nextReply >>= fun content =>
      client.readSnapped content.1 content.2) with
  | error fault => rfl
  | ok items =>
      simp only [Work.run_bind, Work.run_ofExcept, ok_bind]
      cases items.elements with
      | error fault => rfl
      | ok elements =>
          simp only [ok_bind]
          cases elements.mapM (snappedPoint client.provider) with
          | error fault => rfl
          | ok points => rfl

theorem run_reverse (client : Client) (p : Point) (wire : Wire) :
    (client.reverse p).run wire =
      (client.nearestIn wire.nextReply, wire.afterCall (client.reverseCall p)) := by
  rw [reverse, Work.run_recover, nearestIn, Work.run_bind, run_answerTo]
  cases client.contents wire.nextReply with
  | error fault => rfl
  | ok content =>
      simp only [ok_bind]
      split <;> rfl

/-- The wire after a look-up, which keeps the place that was found. -/
def noting (key : PlaceKey) (found : Except Fault (Option Point)) (wire : Wire) : Wire :=
  match found with
  | .ok (some place) =>
    if wire.keeps then { wire with places := (key, place) :: wire.places } else wire
  | _ => wire

theorem carries_noting {wire after : Wire} {session : List Exchange} (key : PlaceKey)
    (found : Except Fault (Option Point)) (carried : wire.Carries session after) :
    wire.Carries session (noting key found after) := by
  unfold noting
  split
  · split
    · exact carried.of_places _
    · exact carried
  · exact carried

theorem run_lookUp (client : Client) (query : String) (wire : Wire) :
    (client.lookUp query).run wire =
      (client.placeIn wire.nextReply,
        noting (client.placeKey query) (client.placeIn wire.nextReply)
          (wire.afterCall (client.geocodeCall query))) := by
  rw [lookUp, Work.run_bind, run_answerTo, placeIn]
  cases client.contents wire.nextReply with
  | error fault => rfl
  | ok content =>
      simp only [Work.run_bind, Work.run_ofExcept, ok_bind]
      cases client.readPlace content.1 content.2 with
      | error fault => rfl
      | ok found =>
          cases found with
          | none => rfl
          | some place => rfl

theorem run_geocode (client : Client) (query : String) (wire : Wire) :
    (client.geocode query).run wire =
      match wire.known? (client.placeKey query) with
      | some place => (.ok (some place), wire)
      | none => (client.lookUp query).run wire := by
  rw [geocode, Work.run_bind, Work.run_look]
  cases known : wire.known? (client.placeKey query) with
  | some place => simp only [known, Work.run_pure]
  | none => simp only [known]

end Client

end JourneyCost.Map
