import JourneyCost.Proofs.Map.Reading
import Mathlib.Data.List.Induction

/-!
# Places that are looked up again

What the wire knows is exactly what look-ups have found since it was told to forget.  So a place
that was found is not asked for again, and a look-up that finds nothing leaves no trace but its
call.
-/

namespace JourneyCost.Map

open Net

/-- What can happen where places are looked up. -/
inductive Errand where
  /-- A place is looked up by its name. -/
  | find (query : String)
  /-- Another client takes over. -/
  | switch (client : Client)
  /-- The places found so far are forgotten. -/
  | forget

/-- A client with the wire over which it looks places up. -/
structure Office where
  /-- The client. -/
  client : Client
  /-- The wire. -/
  wire : Wire

namespace Client

/-- The parameter that carries the name of a place to a service. -/
def queryParameter (client : Client) : String :=
  match client.provider with
  | .ola => "input"
  | .ors => "text"

/-- The name of the place that a call asks for. -/
def asked? (client : Client) (call : Call) : Option Json :=
  call.params.bind fun params => params.lookup client.queryParameter

theorem asked?_geocodeCall (client : Client) (query : String) :
    client.asked? (client.geocodeCall query) = some (.text query) := by
  unfold asked? queryParameter geocodeCall
  cases client.provider <;> rfl

section

variable {key : PlaceKey} {found : Except Fault (Option Point)}

theorem replies_noting (wire : Wire) : (noting key found wire).replies = wire.replies := by
  unfold noting
  split
  · split <;> rfl
  · rfl

theorem keeps_noting (wire : Wire) : (noting key found wire).keeps = wire.keeps := by
  unfold noting
  split
  · split <;> rfl
  · rfl

theorem places_noting {left right : Wire} (places : left.places = right.places)
    (keeps : left.keeps = right.keeps) :
    (noting key found left).places = (noting key found right).places := by
  unfold noting
  split
  · rw [keeps]
    split
    · exact congrArg (List.cons _) places
    · exact places
  · exact places

end

end Client

namespace Office

/-- A client with a wire on which places are kept and none is known. -/
def start (client : Client) (replies : List Reply) : Office := ⟨client, .start replies true⟩

/-- What looking a place up gives. -/
def answer (office : Office) (query : String) : Except Fault (Option Point) :=
  ((office.client.geocode query).run office.wire).1

/-- The office after an errand. -/
def apply (office : Office) : Errand → Office
  | .find query => { office with wire := ((office.client.geocode query).run office.wire).2 }
  | .switch client => { office with client := client }
  | .forget => { office with wire := office.wire.forget }

/-- The calls that looking a place up sends. -/
def calls (office : Office) (query : String) : List Call :=
  (office.apply (.find query)).wire.sent.drop office.wire.sent.length

/-- The office after a sequence of errands. -/
def after (office : Office) (errands : List Errand) : Office := errands.foldl apply office

theorem after_concat (office : Office) (errands : List Errand) (errand : Errand) :
    office.after (errands ++ [errand]) = (office.after errands).apply errand := by
  simp only [after, List.foldl_append, List.foldl_cons, List.foldl_nil]

section

variable {office : Office} {query : String} {place : Point}

theorem answer_of_known
    (known : office.wire.known? (office.client.placeKey query) = some place) :
    office.answer query = .ok (some place) := by
  rw [answer, Client.run_geocode, known]

theorem apply_find_of_known
    (known : office.wire.known? (office.client.placeKey query) = some place) :
    office.apply (.find query) = office := by
  rw [apply, Client.run_geocode, known]

theorem answer_of_unknown
    (unknown : office.wire.known? (office.client.placeKey query) = none) :
    office.answer query = office.client.placeIn office.wire.nextReply := by
  rw [answer, Client.run_geocode, unknown, Client.run_lookUp]

theorem apply_find_of_unknown
    (unknown : office.wire.known? (office.client.placeKey query) = none) :
    office.apply (.find query) =
      ⟨office.client, Client.noting (office.client.placeKey query) (office.answer query)
        (office.wire.afterCall (office.client.geocodeCall query))⟩ := by
  rw [answer_of_unknown unknown, apply, Client.run_geocode, unknown, Client.run_lookUp]

/-- A look-up that finds nothing leaves no trace but its call. -/
theorem apply_find_of_missed (missed : ∀ place, office.answer query ≠ .ok (some place)) :
    office.apply (.find query) =
      { office with wire := office.wire.afterCall (office.client.geocodeCall query) } := by
  have unknown : office.wire.known? (office.client.placeKey query) = none := by
    cases known : office.wire.known? (office.client.placeKey query) with
    | none => rfl
    | some place => exact absurd (answer_of_known known) (missed place)
  rw [apply_find_of_unknown unknown]
  unfold Client.noting
  split
  · rename_i place found
    exact absurd found (missed place)
  · rfl

theorem calls_of_known
    (known : office.wire.known? (office.client.placeKey query) = some place) :
    office.calls query = [] := by
  rw [calls, apply_find_of_known known, List.drop_length]

theorem calls_of_unknown
    (unknown : office.wire.known? (office.client.placeKey query) = none) :
    office.calls query = [office.client.geocodeCall query] := by
  have sent : (office.apply (.find query)).wire.sent =
      office.wire.sent ++ [office.client.geocodeCall query] := by
    rw [apply_find_of_unknown unknown]
    exact (Client.carries_noting _ _ (Wire.carries_afterCall office.wire _)).sent
  rw [calls, sent, List.drop_left]

/-! ## What the wire knows -/

theorem keeps_apply (office : Office) (errand : Errand) :
    (office.apply errand).wire.keeps = office.wire.keeps := by
  cases errand with
  | switch client => rfl
  | forget => rfl
  | find query =>
      cases known : office.wire.known? (office.client.placeKey query) with
      | some place => rw [apply_find_of_known known]
      | none =>
          rw [apply_find_of_unknown known, Client.keeps_noting]
          rfl

theorem keeps_after (client : Client) (replies : List Reply) (errands : List Errand) :
    ((start client replies).after errands).wire.keeps = true := by
  induction errands using List.reverseRecOn with
  | nil => rfl
  | append_singleton errands errand induction => rw [after_concat, keeps_apply, induction]

/-- After a look-up the wire knows what it knew before and the place that was found. -/
theorem known?_apply_find (keeps : office.wire.keeps = true) (key : PlaceKey) :
    (office.apply (.find query)).wire.known? key = some place ↔
      office.wire.known? key = some place ∨
        office.client.placeKey query = key ∧ office.answer query = .ok (some place) := by
  cases known : office.wire.known? (office.client.placeKey query) with
  | some found =>
      rw [apply_find_of_known known, answer_of_known known]
      refine ⟨.inl, ?_⟩
      rintro (before | ⟨rfl, same⟩)
      · exact before
      · rw [known, Option.some.inj (Except.ok.inj same)]
  | none =>
      rw [apply_find_of_unknown known]
      generalize office.answer query = found
      unfold Client.noting
      split
      · rename_i found
        simp only [Wire.afterCall, keeps, if_true, Wire.known?, List.lookup_cons] at known ⊢
        by_cases same : key = office.client.placeKey query
        · subst same
          simp [known, eq_comm]
        · simp [beq_eq_false_iff_ne.mpr same, Ne.symm same]
      · rename_i nothing
        refine ⟨.inl, ?_⟩
        rintro (before | ⟨-, same⟩)
        · exact before
        · exact absurd same (nothing place)

end

/-- The office as it was before the errand at a position. -/
def before (client : Client) (replies : List Reply) (errands : List Errand) (n : Nat) : Office :=
  (start client replies).after (errands.take n)

/-- A look-up under a key has found a place since places were last forgotten. -/
def Found (client : Client) (replies : List Reply) (errands : List Errand) (key : PlaceKey)
    (place : Point) : Prop :=
  ∃ n query, errands[n]? = some (.find query) ∧ Errand.forget ∉ errands.drop n ∧
    (before client replies errands n).client.placeKey query = key ∧
    (before client replies errands n).answer query = .ok (some place)

section

variable {client : Client} {replies : List Reply} {errands : List Errand} {key : PlaceKey}
  {place : Point}

theorem not_found_nil : ¬ Found client replies [] key place := by
  rintro ⟨n, query, errand, -⟩
  exact absurd errand (by simp)

theorem not_found_forget : ¬ Found client replies (errands ++ [.forget]) key place := by
  rintro ⟨n, query, errand, kept, -⟩
  have bound : n < (errands ++ [Errand.forget]).length := (List.getElem?_eq_some_iff.mp errand).1
  rw [List.length_append, List.length_singleton] at bound
  rw [List.drop_append_of_le_length (by omega)] at kept
  exact kept (List.mem_append_right _ (List.mem_singleton_self _))

theorem found_concat {errand : Errand} (kept : errand ≠ .forget) :
    Found client replies (errands ++ [errand]) key place ↔
      Found client replies errands key place ∨
        ∃ query, errand = .find query ∧
          ((start client replies).after errands).client.placeKey query = key ∧
          ((start client replies).after errands).answer query = .ok (some place) := by
  constructor
  · rintro ⟨n, query, found, uncleared, sameKey, answered⟩
    have bound : n < (errands ++ [errand]).length := (List.getElem?_eq_some_iff.mp found).1
    rw [List.length_append, List.length_singleton] at bound
    rw [before, List.take_append_of_le_length (by omega)] at sameKey answered
    by_cases early : n < errands.length
    · rw [List.getElem?_append_left early] at found
      rw [List.drop_append_of_le_length (Nat.le_of_lt early), List.mem_append, not_or] at uncleared
      exact .inl ⟨n, query, found, uncleared.1, sameKey, answered⟩
    · obtain rfl : n = errands.length := by omega
      rw [List.getElem?_concat_length] at found
      rw [List.take_length] at sameKey answered
      exact .inr ⟨query, Option.some.inj found, sameKey, answered⟩
  · rintro (⟨n, query, found, uncleared, sameKey, answered⟩ | ⟨query, rfl, sameKey, answered⟩)
    · have early : n < errands.length := (List.getElem?_eq_some_iff.mp found).1
      refine ⟨n, query, ?_, ?_, ?_, ?_⟩
      · rw [List.getElem?_append_left early, found]
      · rw [List.drop_append_of_le_length (Nat.le_of_lt early), List.mem_append,
          List.mem_singleton, not_or]
        exact ⟨uncleared, kept.symm⟩
      · rw [before, List.take_append_of_le_length (Nat.le_of_lt early)]
        exact sameKey
      · rw [before, List.take_append_of_le_length (Nat.le_of_lt early)]
        exact answered
    · refine ⟨errands.length, query, List.getElem?_concat_length, ?_, ?_, ?_⟩
      · rw [List.drop_left, List.mem_singleton]
        exact kept.symm
      · rw [before, List.take_left]
        exact sameKey
      · rw [before, List.take_left]
        exact answered

/-- What the wire knows is what look-ups have found since places were last forgotten. -/
theorem known?_after_iff :
    ((start client replies).after errands).wire.known? key = some place ↔
      Found client replies errands key place := by
  -- From the last errand back: only a look-up adds to what is known, and only by what it finds.
  induction errands using List.reverseRecOn with
  | nil => exact ⟨fun known => absurd known (by simp [after, start, Wire.start, Wire.known?]),
      fun found => absurd found not_found_nil⟩
  | append_singleton errands errand induction =>
      rw [after_concat]
      cases errand with
      | find query =>
          rw [known?_apply_find (keeps_after client replies errands), induction,
            found_concat (by simp)]
          simp
      | switch other =>
          rw [found_concat (by simp)]
          simpa [apply] using induction
      | forget =>
          refine ⟨fun known => ?_, fun found => absurd found not_found_forget⟩
          simp [apply, Wire.forget, Wire.known?] at known

/-- Two offices have the same client, the same replies to come and the same places. -/
structure Alike (left right : Office) : Prop where
  /-- The clients are the same. -/
  client : left.client = right.client
  /-- The replies to come are the same. -/
  replies : left.wire.replies = right.wire.replies
  /-- The same places are known. -/
  places : left.wire.places = right.wire.places
  /-- Places are kept on both wires or on none. -/
  keeps : left.wire.keeps = right.wire.keeps

namespace Alike

variable {left right : Office}

theorem known? (alike : left.Alike right) (key : PlaceKey) :
    left.wire.known? key = right.wire.known? key := by
  rw [Wire.known?, Wire.known?, alike.places]

theorem answer (alike : left.Alike right) (query : String) :
    left.answer query = right.answer query := by
  have same := alike.known? (left.client.placeKey query)
  rw [alike.client] at same
  cases known : right.wire.known? (right.client.placeKey query) with
  | some place =>
      rw [answer_of_known known, answer_of_known (by rw [alike.client, same, known])]
  | none =>
      rw [answer_of_unknown known, answer_of_unknown (by rw [alike.client, same, known]),
        alike.client, Wire.nextReply, Wire.nextReply, alike.replies]

theorem calls (alike : left.Alike right) (query : String) :
    left.calls query = right.calls query := by
  have same := alike.known? (left.client.placeKey query)
  rw [alike.client] at same
  cases known : right.wire.known? (right.client.placeKey query) with
  | some place => rw [calls_of_known known, calls_of_known (by rw [alike.client, same, known])]
  | none =>
      rw [calls_of_unknown known, calls_of_unknown (by rw [alike.client, same, known]),
        alike.client]

theorem apply (alike : left.Alike right) (errand : Errand) :
    (left.apply errand).Alike (right.apply errand) := by
  cases errand with
  | switch client => exact ⟨rfl, alike.replies, alike.places, alike.keeps⟩
  | forget => exact ⟨alike.client, alike.replies, rfl, alike.keeps⟩
  | find query =>
      have same := alike.known? (left.client.placeKey query)
      rw [alike.client] at same
      cases known : right.wire.known? (right.client.placeKey query) with
      | some place =>
          rw [apply_find_of_known known, apply_find_of_known (by rw [alike.client, same, known])]
          exact alike
      | none =>
          rw [apply_find_of_unknown known,
            apply_find_of_unknown (by rw [alike.client, same, known]), alike.client,
            alike.answer query]
          refine ⟨rfl, ?_, Client.places_noting alike.places alike.keeps, ?_⟩
          · rw [Client.replies_noting, Client.replies_noting]
            exact congrArg List.tail alike.replies
          · rw [Client.keeps_noting, Client.keeps_noting]
            exact alike.keeps

theorem after (alike : left.Alike right) (errands : List Errand) :
    (left.after errands).Alike (right.after errands) := by
  induction errands generalizing left right with
  | nil => exact alike
  | cons errand errands induction => exact induction (alike.apply errand)

end Alike

end

/-- The office without the next reply. -/
def skipReply (office : Office) : Office :=
  { office with wire := { office.wire with replies := office.wire.replies.tail } }

theorem alike_skipReply {office : Office} {query : String}
    (missed : ∀ place, office.answer query ≠ .ok (some place)) :
    (office.apply (.find query)).Alike office.skipReply := by
  rw [apply_find_of_missed missed]
  exact ⟨rfl, rfl, rfl, rfl⟩

/-- A look-up under a key that has found a place since places were last forgotten gives that place
and sends nothing.  Any other look-up sends one call, which carries the name as it was given, and
gives what the reply says.  A look-up that finds nothing keeps nothing: whatever happens later is
as if it had not been made and its reply had not been there. -/
theorem find_after (client : Client) (replies : List Reply) (errands : List Errand)
    (query : String) :
    let office := (start client replies).after errands
    (∀ place, Found client replies errands (office.client.placeKey query) place →
      office.answer query = .ok (some place) ∧ office.calls query = []) ∧
    ((∀ place, ¬ Found client replies errands (office.client.placeKey query) place) →
      office.answer query = office.client.placeIn office.wire.nextReply ∧
      ∃ call, office.calls query = [call] ∧ call.purpose = .geocode ∧
        office.client.asked? call = some (.text query)) ∧
    ((∀ place, office.answer query ≠ .ok (some place)) →
      (office.apply (.find query)).wire.places = office.wire.places ∧
      ∀ later next,
        ((office.apply (.find query)).after later).answer next =
            (office.skipReply.after later).answer next ∧
          ((office.apply (.find query)).after later).calls next =
            (office.skipReply.after later).calls next) := by
  intro office
  refine ⟨?_, ?_, ?_⟩
  · intro place found
    have known := known?_after_iff.mpr found
    exact ⟨answer_of_known known, calls_of_known known⟩
  · intro never
    have unknown : office.wire.known? (office.client.placeKey query) = none := by
      cases known : office.wire.known? (office.client.placeKey query) with
      | none => rfl
      | some place => exact absurd (known?_after_iff.mp known) (never place)
    exact ⟨answer_of_unknown unknown, office.client.geocodeCall query, calls_of_unknown unknown,
      office.client.purpose_geocodeCall query, office.client.asked?_geocodeCall query⟩
  · intro missed
    refine ⟨by rw [apply_find_of_missed missed]; rfl, ?_⟩
    intro later next
    have alike := (alike_skipReply missed).after later
    exact ⟨alike.answer next, alike.calls next⟩

/-- A place that is asked for twice, by clients with different keys, and one that is not found. -/
theorem find_after_agra :
    let client : Client := ⟨.ola, "https://maps.example", "one", .null, {}⟩
    let other : Client := ⟨.ola, "https://maps.example", "two", .null, {}⟩
    let agra : String :=
      "\x7b\"features\":[\x7b\"geometry\":\x7b\"coordinates\":[78.0,27.5]\x7d\x7d]\x7d"
    let replies : List Reply := [.answer 200 (Text.toBytes agra)]
    let errands : List Errand := [.find "Agra", .switch other]
    ((start client replies).after errands).answer " AGRA " = .ok (some ⟨78, 27.5⟩) ∧
      ((start client replies).after errands).calls " AGRA " = [] ∧
      (∃ call, (start client replies).calls "Agra" = [call] ∧ call.purpose = .geocode ∧
        client.asked? call = some (.text "Agra")) ∧
      ((start client []).apply (.find "Agra")).wire.places = [] := by
  intro client other agra replies errands
  have first : (start client replies).answer "Agra" = .ok (some ⟨78, 27.5⟩) := by decide +kernel
  have found : Found client replies errands (other.placeKey " AGRA ") ⟨78, 27.5⟩ :=
    ⟨0, "Agra", rfl, by simp [errands], by decide +kernel, first⟩
  have missed : ∀ place, (start client []).answer "Agra" ≠ .ok (some place) := by
    intro place given
    have dropped : ((start client []).answer "Agra").toOption = none := by decide +kernel
    rw [given] at dropped
    cases dropped
  obtain ⟨answered, silent⟩ := (find_after client replies errands " AGRA ").1 _ found
  refine ⟨answered, silent, ?_, ?_⟩
  · exact ((find_after client replies [] "Agra").2.1 fun place => not_found_nil).2
  · exact ((find_after client [] [] "Agra").2.2 missed).1

end Office

end JourneyCost.Map
