import JourneyCost.Proofs.Route.Trip
import Mathlib.Data.List.Induction

/-!
# The protocol of finding a route

Each call that finding a route sends is permitted by the calls before it and by what came of them.
From what is permitted after what follow the words that the purposes of the calls can spell, and
that nothing is sent once directions were given or refused a second time.
-/

namespace JourneyCost

open Net Map

/-- The look-ups that an endpoint can need. -/
def Endpoint.lookUps : Endpoint → Nat
  | .named _ => 1
  | .position _ => 0

namespace Route

/-- A place is known under a key: it was kept on the wire, or a look-up has found it. -/
def Known (client : Client) (wire : Wire) (history : List Exchange) (key : PlaceKey)
    (place : Point) : Prop :=
  wire.known? key = some place ∨
    ∃ query reply, ⟨client.geocodeCall query, reply⟩ ∈ history ∧
      client.placeKey query = key ∧ client.placeIn reply = .ok (some place)

/-- An endpoint has a point: its own, or that of a known place. -/
inductive HasPoint (client : Client) (wire : Wire) (history : List Exchange) :
    Endpoint → Point → Prop
  | position (point : Point) : HasPoint client wire history (.position point) point
  | named {name : String} {point : Point} :
      Known client wire history (client.placeKey name) point →
      HasPoint client wire history (.named name) point

/-- Both endpoints have points after some look-ups. -/
structure Ends (client : Client) (wire : Wire) (origin destination : Endpoint)
    (looks : List Exchange) (start stop : Point) : Prop where
  /-- There were only look-ups so far. -/
  onlyLookUps : ∀ e ∈ looks, e.call.purpose = .geocode
  /-- There was at most one for each name. -/
  few : looks.length ≤ origin.lookUps + destination.lookUps
  /-- The origin has a point. -/
  origin : HasPoint client wire looks origin start
  /-- The destination has a point. -/
  destination : HasPoint client wire looks destination stop

/-- Which call may follow which exchanges. -/
inductive Permitted (client : Client) (wire : Wire) (origin destination : Endpoint) :
    List Exchange → Call → Prop
  /-- A name may be looked up, at most one for each endpoint. -/
  | lookUp {looks : List Exchange} {name : String} :
      (∀ e ∈ looks, e.call.purpose = .geocode) →
      looks.length < origin.lookUps + destination.lookUps →
      origin = .named name ∨ destination = .named name →
      Permitted client wire origin destination looks (client.geocodeCall name)
  /-- Directions may be asked for once both endpoints have points. -/
  | ask {looks : List Exchange} {start stop : Point} :
      Ends client wire origin destination looks start stop →
      Permitted client wire origin destination looks (client.directionsCall start stop)
  /-- The ends may be snapped if the directions were refused for an end off the road. -/
  | snap {looks : List Exchange} {start stop : Point} {asked : Reply} :
      Ends client wire origin destination looks start stop → OffRoad client asked →
      Permitted client wire origin destination
        (looks ++ [⟨client.directionsCall start stop, asked⟩]) (client.snapCall start stop)
  /-- Directions may be asked for again between the first and the last of two snapped points. -/
  | askMoved {looks : List Exchange} {start stop first last : Point} {asked snapped : Reply}
      {points : List Point} :
      Ends client wire origin destination looks start stop → OffRoad client asked →
      client.snappedIn snapped = .ok points → 2 ≤ points.length →
      points.head? = some first → points.getLast? = some last →
      Permitted client wire origin destination
        (looks ++ [⟨client.directionsCall start stop, asked⟩,
          ⟨client.snapCall start stop, snapped⟩]) (client.directionsCall first last)
  /-- The place nearest to the origin may be asked for if fewer points were snapped. -/
  | reverseStart {looks : List Exchange} {start stop : Point} {asked snapped : Reply}
      {points : List Point} :
      Ends client wire origin destination looks start stop → OffRoad client asked →
      client.snappedIn snapped = .ok points → points.length < 2 →
      Permitted client wire origin destination
        (looks ++ [⟨client.directionsCall start stop, asked⟩,
          ⟨client.snapCall start stop, snapped⟩]) (client.reverseCall start)
  /-- Then the place nearest to the destination may be asked for. -/
  | reverseStop {looks : List Exchange} {start stop : Point} {asked snapped nearStart : Reply}
      {points : List Point} :
      Ends client wire origin destination looks start stop → OffRoad client asked →
      client.snappedIn snapped = .ok points → points.length < 2 →
      Permitted client wire origin destination
        (looks ++ [⟨client.directionsCall start stop, asked⟩,
          ⟨client.snapCall start stop, snapped⟩, ⟨client.reverseCall start, nearStart⟩])
        (client.reverseCall stop)
  /-- Directions may be asked for again between both of these places. -/
  | askPlaced {looks : List Exchange} {start stop near far : Point}
      {asked snapped nearStart nearStop : Reply} {points : List Point} :
      Ends client wire origin destination looks start stop → OffRoad client asked →
      client.snappedIn snapped = .ok points → points.length < 2 →
      client.nearestIn nearStart = .ok (some near) →
      client.nearestIn nearStop = .ok (some far) →
      Permitted client wire origin destination
        (looks ++ [⟨client.directionsCall start stop, asked⟩,
          ⟨client.snapCall start stop, snapped⟩, ⟨client.reverseCall start, nearStart⟩,
          ⟨client.reverseCall stop, nearStop⟩]) (client.directionsCall near far)

/-- Every call of a session was permitted when it was sent. -/
def Lawful (client : Client) (wire : Wire) (origin destination : Endpoint)
    (session : List Exchange) : Prop :=
  ∀ before e rest, session = before ++ e :: rest →
    Permitted client wire origin destination before e.call

/-- The purposes of the calls of a session. -/
def purposes (session : List Exchange) : List Purpose := session.map fun e => e.call.purpose

/-- The purposes once the ends could be snapped to the road. -/
def movedWord : List Purpose := [.directions, .snap, .directions]

/-- The purposes once the ends had to be moved to the nearest places. -/
def placedWord : List Purpose := [.directions, .snap, .reverse, .reverse, .directions]

section

variable {client : Client} {wire : Wire} {origin destination : Endpoint}

theorem OffRoad.not_answer_ok {body : Bytes} : ¬ OffRoad client (.answer 200 body) := by
  rintro ⟨answer, read, refused, -⟩
  obtain rfl := Except.ok.inj read
  exact refused rfl

theorem purposes_lookUps {looks : List Exchange}
    (lookUps : ∀ e ∈ looks, e.call.purpose = .geocode) :
    purposes looks = List.replicate looks.length .geocode := by
  rw [List.eq_replicate_iff]
  refine ⟨List.length_map _, ?_⟩
  intro purpose member
  obtain ⟨e, inside, rfl⟩ := List.mem_map.mp member
  exact lookUps e inside

/-- The purposes of a session begin one of the words, after look-ups. -/
def Spells (origin destination : Endpoint) (session : List Exchange) : Prop :=
  ∃ k ≤ origin.lookUps + destination.lookUps,
    purposes session <+: List.replicate k .geocode ++ movedWord ∨
      purposes session <+: List.replicate k .geocode ++ placedWord

theorem Ends.spells {looks trip : List Exchange} {start stop : Point}
    (ends : Ends client wire origin destination looks start stop)
    (beginning : purposes trip <+: movedWord ∨ purposes trip <+: placedWord) :
    Spells origin destination (looks ++ trip) := by
  refine ⟨looks.length, ends.few, ?_⟩
  have words : purposes (looks ++ trip) =
      List.replicate looks.length .geocode ++ purposes trip := by
    rw [← purposes_lookUps ends.onlyLookUps, purposes, List.map_append, purposes, purposes]
  rw [words, List.prefix_append_right_inj, List.prefix_append_right_inj]
  exact beginning

/-- A permitted call continues a word. -/
theorem Permitted.spells {history : List Exchange} {call : Call}
    (permitted : Permitted client wire origin destination history call) (reply : Reply) :
    Spells origin destination (history ++ [⟨call, reply⟩]) := by
  cases permitted with
  | lookUp onlyLookUps few mine =>
      refine ⟨history.length + 1, few, .inl ?_⟩
      rw [purposes, List.map_append]
      change purposes history ++ _ <+: _
      rw [purposes_lookUps onlyLookUps, List.map_singleton, Client.purpose_geocodeCall,
        List.replicate_succ']
      exact List.prefix_append _ _
  | ask ends => exact ends.spells (.inl (by simp [purposes, movedWord]))
  | snap ends offRoad =>
      rw [List.append_assoc]
      exact ends.spells (.inl (by simp [purposes, movedWord]))
  | askMoved ends offRoad read many first last =>
      rw [List.append_assoc]
      exact ends.spells (.inl (by simp [purposes, movedWord]))
  | reverseStart ends offRoad read few =>
      rw [List.append_assoc]
      exact ends.spells (.inr (by simp [purposes, placedWord]))
  | reverseStop ends offRoad read few =>
      rw [List.append_assoc]
      exact ends.spells (.inr (by simp [purposes, placedWord]))
  | askPlaced ends offRoad read few near far =>
      rw [List.append_assoc]
      exact ends.spells (.inr (by simp [purposes, placedWord]))

theorem Lawful.spells {session : List Exchange}
    (lawful : Lawful client wire origin destination session) :
    Spells origin destination session := by
  rcases List.eq_nil_or_concat session with rfl | ⟨before, ⟨call, reply⟩, rfl⟩
  · exact ⟨0, Nat.zero_le _, .inl List.nil_prefix⟩
  · rw [List.concat_eq_append] at lawful ⊢
    exact (lawful before ⟨call, reply⟩ [] rfl).spells reply

/-- After a call for directions only one that was refused for the first time permits more. -/
theorem Permitted.refused {before : List Exchange} {e : Exchange} {call : Call}
    (permitted : Permitted client wire origin destination (before ++ [e]) call)
    (directions : e.call.purpose = .directions) :
    OffRoad client e.reply ∧ ∀ asked ∈ before, asked.call.purpose = .geocode := by
  generalize split : before ++ [e] = history at permitted
  have last : history.getLast? = some e := by rw [← split, List.getLast?_concat]
  have inside : e ∈ history := List.mem_of_getLast? last
  cases permitted with
  | lookUp onlyLookUps few mine =>
      have lookUp := onlyLookUps e inside
      rw [directions] at lookUp
      contradiction
  | ask ends =>
      have lookUp := ends.onlyLookUps e inside
      rw [directions] at lookUp
      contradiction
  | snap ends offRoad =>
      obtain ⟨rfl, same⟩ := List.append_inj' split rfl
      obtain rfl := List.singleton_inj.mp same
      exact ⟨offRoad, ends.onlyLookUps⟩
  | askMoved | reverseStart | reverseStop | askPlaced =>
      simp only [List.getLast?_append, List.getLast?_cons_cons, List.getLast?_singleton,
        Option.some_or, Option.some.injEq] at last
      subst last
      simp at directions

/-- Nothing is sent after directions that were given, or that were asked for again. -/
theorem Lawful.final {session before rest : List Exchange} {e : Exchange}
    (lawful : Lawful client wire origin destination session)
    (split : session = before ++ e :: rest) (directions : e.call.purpose = .directions)
    (settled : (∃ body, e.reply = .answer 200 body) ∨
      ∃ asked ∈ before, asked.call.purpose = .directions) :
    rest = [] := by
  cases rest with
  | nil => rfl
  | cons next more =>
      have permitted := lawful (before ++ [e]) next more (by rw [split, List.append_cons])
      obtain ⟨offRoad, onlyLookUps⟩ := permitted.refused directions
      rcases settled with ⟨body, given⟩ | ⟨asked, member, first⟩
      · rw [given] at offRoad
        exact absurd offRoad OffRoad.not_answer_ok
      · rw [onlyLookUps asked member] at first
        contradiction

end

end Route

end JourneyCost
