import JourneyCost.Proofs.Decimal.Rounding
import JourneyCost.Proofs.Decimal.Order
import JourneyCost.Proofs.Geo.Distance
import JourneyCost.Proofs.Toll.Identity
import JourneyCost.Toll.Bill

/-!
# Which plazas a bill charges

A bill visits the plazas one after another and remembers the identities it has met.  What comes of
that can be said without the memory: of the plazas on the route that can be identified, those whose
identity is not that of an earlier one are charged if they have a toll.
-/

namespace JourneyCost.Toll

theorem usableFee_eq_error {candidate : Json} {fault : Fault}
    (failed : usableFee candidate = .error fault) : fault = .overflow := by
  cases candidate with
  | int value =>
      rw [usableFee] at failed
      cases fits : Decimal.floatOfInt? value with
      | some fee => simp [fits] at failed
      | none => simpa [fits, eq_comm] using failed
  | null | bool _ | float _ | text _ | list _ | object _ => simp [usableFee] at failed

theorem usableFee_ne_nan {candidate : Json} {fee : Float}
    (usable : usableFee candidate = .ok (some fee)) : fee ≠ Float.nan := by
  cases candidate with
  | int value =>
      rw [usableFee, Decimal.floatOfInt?] at usable
      split at usable
      · simp at usable
      · obtain rfl := Option.some.inj (Except.ok.inj usable)
        exact Decimal.nearest_ne_nan _ _ _
  | float value =>
      rw [usableFee] at usable
      split at usable
      · rename_i finite
        obtain rfl := Option.some.inj (Except.ok.inj usable)
        exact Decimal.ne_nan_of_isFinite finite
      · simp at usable
  | text s =>
      obtain ⟨-, finite⟩ := Option.filter_eq_some_iff.mp (Except.ok.inj usable)
      exact Decimal.ne_nan_of_isFinite finite
  | null | bool _ | list _ | object _ => simp [usableFee] at usable

theorem firstUsable_eq_error {candidates : List Json} {fault : Fault}
    (failed : firstUsable candidates = .error fault) : fault = .overflow := by
  induction candidates with
  | nil => cases failed
  | cons candidate more induction =>
      rw [firstUsable] at failed
      cases usable : usableFee candidate with
      | error cause =>
          rw [usable] at failed
          cases failed
          exact usableFee_eq_error usable
      | ok found =>
          rw [usable, ok_bind] at failed
          cases found with
          | some fee => cases failed
          | none => exact induction failed

theorem firstUsable_ne_nan {candidates : List Json} {fee : Float}
    (found : firstUsable candidates = .ok fee) : fee ≠ Float.nan := by
  induction candidates with
  | nil =>
      obtain rfl := Except.ok.inj found
      exact Decimal.nan_ne_zero
  | cons candidate more induction =>
      rw [firstUsable] at found
      cases usable : usableFee candidate with
      | error cause =>
          rw [usable] at found
          cases found
      | ok first =>
          rw [usable, ok_bind] at found
          cases first with
          | some fee =>
              obtain rfl := Except.ok.inj found
              exact usableFee_ne_nan usable
          | none => exact induction found

/-- A toll that is not zero or less is greater than zero. -/
theorem fee_not_le_zero_iff {plaza : Plaza} {category : String} {fee : Float}
    (found : plaza.fee category = .ok fee) : ¬ fee ≤ 0 ↔ 0 < fee :=
  Decimal.not_le_zero_iff (firstUsable_ne_nan found)

/-- A plaza on the route. -/
structure Passed where
  /-- The plaza. -/
  plaza : Plaza
  /-- Its position. -/
  place : Point
  /-- Kilometres from the route. -/
  distance : Float

/-- The identity of the plaza. -/
abbrev Passed.identity (passed : Passed) : Json := passed.plaza.identity

/-- A plaza with a position that is no farther from the route than the threshold, and with an
identity. -/
def passed? (route : List Point) (threshold : Float) (plaza : Plaza) : Option Passed :=
  plaza.location.bind fun place =>
    match Geo.distanceToRoute place route with
    | .ok distance =>
      if !decide (threshold < distance) && isIdentity plaza.identity then
        some ⟨plaza, place, distance⟩
      else none
    | .error _ => none

/-- The plazas on a route that can be identified. -/
def passing (route : List Point) (threshold : Float) (plazas : List Plaza) : List Passed :=
  plazas.filterMap (passed? route threshold)

/-- The plazas whose identity is not that of an earlier one. -/
def firsts (same : Json → Json → Bool) (passed : List Passed) : List Passed :=
  (passed.zipIdx.filter fun entry =>
    !(passed.take entry.2).any fun earlier => same entry.1.identity earlier.identity).map Prod.fst

/-- A plaza on the route that charges a toll. -/
structure Due extends Passed where
  /-- The toll. -/
  fee : Float

/-- The toll of a plaza on the route, if it charges one. -/
def due? (category : String) (passed : Passed) : Option Due :=
  match passed.plaza.fee category with
  | .ok fee => if 0 < fee then some { passed with fee := fee } else none
  | .error _ => none

theorem due?_of_le_zero {category : String} {passed : Passed} {fee : Float}
    (found : passed.plaza.fee category = .ok fee) (free : fee ≤ 0) :
    due? category passed = none := by
  have nothing : ¬ 0 < fee := fun above => (fee_not_le_zero_iff found).mpr above free
  simp only [due?, found, nothing, if_false]

theorem due?_of_not_le_zero {category : String} {passed : Passed} {fee : Float}
    (found : passed.plaza.fee category = .ok fee) (priced : ¬ fee ≤ 0) :
    due? category passed = some { passed with fee := fee } := by
  have above : 0 < fee := (fee_not_le_zero_iff found).mp priced
  simp only [due?, found, above, if_true]

/-- The toll as it stands in a bill. -/
def Due.charge (due : Due) : Charge := ⟨due.plaza.name, due.place, due.fee, due.distance⟩

theorem toPassed_of_due? {category : String} {passed : Passed} {due : Due}
    (charged : due? category passed = some due) : due.toPassed = passed := by
  unfold due? at charged
  split at charged
  · split at charged
    · obtain rfl := Option.some.inj charged
      rfl
    · cases charged
  · cases charged

theorem firsts_concat (same : Json → Json → Bool) (front : List Passed) (last : Passed) :
    firsts same (front ++ [last]) =
      firsts same front ++
        if front.any fun earlier => same last.identity earlier.identity then [] else [last] := by
  unfold firsts
  rw [List.zipIdx_append, List.filter_append, List.map_append]
  congr 1
  · congr 1
    apply List.filter_congr
    intro entry member
    have early : entry.2 ≤ front.length := by
      have bounds := List.snd_lt_of_mem_zipIdx member
      omega
    rw [List.take_append_of_le_length early]
  · have whole : (front ++ [last]).take front.length = front := List.take_left
    cases known : front.any fun earlier => same last.identity earlier.identity <;>
      simp [whole, known]

/-- Each plaza is a first one, or shares its identity with a first one. -/
theorem exists_first (passed : List Passed) :
    ∀ member ∈ passed, ∃ first ∈ firsts sameIdentity passed,
      first = member ∨ sameIdentity member.identity first.identity = true := by
  induction passed using List.reverseRecOn with
  | nil => simp
  | append_singleton front last induction =>
      intro member inside
      rw [firsts_concat]
      rcases List.mem_append.mp inside with early | atEnd
      · obtain ⟨first, isFirst, same⟩ := induction member early
        exact ⟨first, List.mem_append_left _ isFirst, same⟩
      · obtain rfl := List.mem_singleton.mp atEnd
        cases known : front.any fun earlier => sameIdentity member.identity earlier.identity with
        | false => exact ⟨member, by simp, .inl rfl⟩
        | true =>
            obtain ⟨earlier, isEarlier, sameEarlier⟩ := List.any_eq_true.mp known
            obtain ⟨first, isFirst, rfl | same⟩ := induction earlier isEarlier
            · exact ⟨first, List.mem_append_left _ isFirst, .inr sameEarlier⟩
            · exact ⟨first, List.mem_append_left _ isFirst,
                .inr (sameIdentity_trans sameEarlier same)⟩

theorem mem_of_mem_firsts {same : Json → Json → Bool} {passed : List Passed} {first : Passed}
    (isFirst : first ∈ firsts same passed) : first ∈ passed := by
  obtain ⟨⟨member, n⟩, inside, rfl⟩ := List.mem_map.mp isFirst
  exact List.fst_mem_of_mem_zipIdx (List.mem_filter.mp inside).1

/-- An identity is that of some plaza exactly if it is that of a first one. -/
theorem any_firsts (identity : Json) (passed : List Passed) :
    ((firsts sameIdentity passed).any fun first => sameIdentity identity first.identity) =
      passed.any fun member => sameIdentity identity member.identity := by
  rw [Bool.eq_iff_iff, List.any_eq_true, List.any_eq_true]
  constructor
  · rintro ⟨first, isFirst, same⟩
    exact ⟨first, mem_of_mem_firsts isFirst, same⟩
  · rintro ⟨member, inside, same⟩
    obtain ⟨first, isFirst, rfl | shared⟩ := exists_first passed member inside
    · exact ⟨first, isFirst, same⟩
    · exact ⟨first, isFirst, sameIdentity_trans same shared⟩

/-- No two first plazas share an identity. -/
theorem pairwise_firsts (passed : List Passed) :
    (firsts sameIdentity passed).Pairwise fun a b =>
      sameIdentity a.identity b.identity = false ∧
        sameIdentity b.identity a.identity = false := by
  induction passed using List.reverseRecOn with
  | nil => exact List.Pairwise.nil
  | append_singleton front last induction =>
      rw [firsts_concat, List.pairwise_append]
      refine ⟨induction, ?_, ?_⟩
      · split <;> simp
      · intro first isFirst other isOther
        cases known : front.any fun earlier => sameIdentity last.identity earlier.identity with
        | true => simp [known] at isOther
        | false =>
            obtain rfl : other = last := by simpa [known] using isOther
            have differs : sameIdentity other.identity first.identity = false := by
              simpa using List.any_eq_false.mp known first (mem_of_mem_firsts isFirst)
            refine ⟨Bool.eq_false_iff.mpr fun same => ?_, differs⟩
            rw [sameIdentity_symm same] at differs
            cases differs

/-- What comes of a plaza on the route, given the bill so far. -/
def Tally.meet (category : String) (tally : Tally) (passed : Passed) : Except Fault Tally :=
  if tally.seen.any (sameIdentity passed.identity) then .ok tally
  else tally.addNew passed.plaza category passed.place passed.distance

/-- A plaza on the route is never passed over for a fault of its toll. -/
theorem recoverWhen_meet (category : String) (tally : Tally) (passed : Passed) :
    recoverWhen isSkipped tally (tally.meet category passed) = tally.meet category passed := by
  unfold Tally.meet
  split
  · rfl
  · unfold Tally.addNew
    cases found : passed.plaza.fee category with
    | error fault =>
        obtain rfl := firstUsable_eq_error found
        rfl
    | ok fee =>
        simp only [ok_bind]
        split <;> rfl

/-- A visit passes a plaza over, or meets it on the route. -/
theorem visit_eq (route : List Point) (threshold : Float) (category : String) (tally : Tally)
    (plaza : Plaza) :
    tally.visit route threshold category plaza =
      (passed? route threshold plaza).elim (.ok tally) (tally.meet category) := by
  unfold Tally.visit onRoute? passed?
  cases plaza.location with
  | none => rfl
  | some place =>
      simp only [Option.bind_some]
      cases measured : Geo.distanceToRoute place route with
      | error fault =>
          obtain rfl := Geo.distanceToRoute_eq_error measured
          rfl
      | ok distance =>
          simp only [ok_bind]
          by_cases far : threshold < distance
          · simp only [far, if_true, decide_true, Bool.not_true, Bool.false_and,
              Bool.false_eq_true, if_false]
            rfl
          · cases identified : isIdentity plaza.identity with
            | false =>
                simp only [far, if_false, decide_false, Bool.and_false, Bool.false_eq_true]
                rfl
            | true =>
                simp only [far, if_false, decide_false, Bool.not_false, Bool.and_true, if_true]
                exact recoverWhen_meet category tally ⟨plaza, place, distance⟩

/-- Visiting plazas comes to meeting those on the route. -/
theorem foldlM_visit (route : List Point) (threshold : Float) (category : String) (tally : Tally)
    (plazas : List Plaza) :
    plazas.foldlM (Tally.visit route threshold category) tally =
      (passing route threshold plazas).foldlM (Tally.meet category) tally := by
  induction plazas generalizing tally with
  | nil => rfl
  | cons plaza rest induction =>
      rw [List.foldlM_cons, visit_eq, passing, List.filterMap_cons]
      cases passed? route threshold plaza with
      | none => exact induction tally
      | some passed =>
          rw [List.foldlM_cons]
          exact bind_congr induction

/-! ## Bills -/

/-- The bill of the plazas visited so far, said without its memory. -/
structure Tally.Charges (category : String) (tally : Tally) (passed : List Passed) : Prop where
  /-- The identities of the first plazas are remembered, the last one first. -/
  seen : tally.seen = ((firsts sameIdentity passed).map Passed.identity).reverse
  /-- Each first plaza has a toll that could be read. -/
  fees : ∀ first ∈ firsts sameIdentity passed, ∃ fee, first.plaza.fee category = .ok fee
  /-- The tolls are those of the first plazas. -/
  charges : tally.charges =
    ((firsts sameIdentity passed).filterMap (due? category)).map Due.charge
  /-- The total is their sum, from the first to the last. -/
  total : tally.total =
    ((firsts sameIdentity passed).filterMap (due? category)).foldl (fun sum due => sum + due.fee) 0

theorem charges_start (category : String) : Tally.start.Charges category [] :=
  ⟨rfl, by simp [firsts], rfl, rfl⟩

/-- The memory tells whether the identity of a plaza is that of an earlier one. -/
theorem Tally.Charges.any_seen {category : String} {tally : Tally} {passed : List Passed}
    (charges : tally.Charges category passed) (identity : Json) :
    tally.seen.any (sameIdentity identity) =
      passed.any fun earlier => sameIdentity identity earlier.identity := by
  rw [charges.seen, List.any_reverse, List.any_map, ← any_firsts]
  rfl

/-- A plaza whose identity was met before leaves the bill as it is. -/
theorem Tally.Charges.concat_known {category : String} {tally : Tally} {front : List Passed}
    {last : Passed} (charges : tally.Charges category front)
    (known : (front.any fun earlier => sameIdentity last.identity earlier.identity) = true) :
    tally.Charges category (front ++ [last]) := by
  have same : firsts sameIdentity (front ++ [last]) = firsts sameIdentity front := by
    rw [firsts_concat, if_pos known, List.append_nil]
  exact ⟨by rw [same]; exact charges.seen, by rw [same]; exact charges.fees,
    by rw [same]; exact charges.charges, by rw [same]; exact charges.total⟩

/-- A plaza whose identity is new is remembered, and charged if its toll is greater than zero. -/
theorem Tally.Charges.addNew {category : String} {tally next : Tally} {front : List Passed}
    {last : Passed} (charges : tally.Charges category front)
    (unknown : ¬ (front.any fun earlier => sameIdentity last.identity earlier.identity) = true)
    (added : tally.addNew last.plaza category last.place last.distance = .ok next) :
    next.Charges category (front ++ [last]) := by
  have more : firsts sameIdentity (front ++ [last]) = firsts sameIdentity front ++ [last] := by
    rw [firsts_concat, if_neg unknown]
  obtain ⟨fee, found, added⟩ := bind_eq_ok.mp added
  have fees : ∀ first ∈ firsts sameIdentity (front ++ [last]),
      ∃ fee, first.plaza.fee category = .ok fee := by
    intro first isFirst
    rw [more] at isFirst
    rcases List.mem_append.mp isFirst with early | atEnd
    · exact charges.fees first early
    · obtain rfl := List.mem_singleton.mp atEnd
      exact ⟨fee, found⟩
  by_cases free : fee ≤ 0
  · have nothing := due?_of_le_zero found free
    rw [if_pos free] at added
    obtain rfl := Except.ok.inj added
    refine ⟨?_, fees, ?_, ?_⟩
    · simp [more, charges.seen]
    · simp [more, charges.charges, nothing]
    · simp [more, charges.total, nothing]
  · have charged := due?_of_not_le_zero found free
    rw [if_neg free] at added
    obtain rfl := Except.ok.inj added
    refine ⟨?_, fees, ?_, ?_⟩
    · simp [more, charges.seen]
    · simp [more, charges.charges, charged, Due.charge]
    · simp [more, charges.total, charged]

theorem Tally.Charges.meet {category : String} {tally next : Tally} {front : List Passed}
    {last : Passed} (charges : tally.Charges category front)
    (met : tally.meet category last = .ok next) : next.Charges category (front ++ [last]) := by
  unfold Tally.meet at met
  rw [charges.any_seen] at met
  split at met
  · rename_i known
    obtain rfl := Except.ok.inj met
    exact charges.concat_known known
  · rename_i unknown
    exact charges.addNew unknown met

theorem charges_foldlM {category : String} {passed : List Passed} {tally : Tally}
    (met : passed.foldlM (Tally.meet category) .start = .ok tally) :
    tally.Charges category passed := by
  induction passed using List.reverseRecOn generalizing tally with
  | nil =>
      obtain rfl := Except.ok.inj met
      exact charges_start category
  | append_singleton front last induction =>
      rw [List.foldlM_append] at met
      obtain ⟨middle, before, met⟩ := bind_eq_ok.mp met
      simp only [List.foldlM_cons, List.foldlM_nil, bind_pure] at met
      exact (induction before).meet met

/-- The total of a bill is the sum of its tolls. -/
theorem total_of_bill {route : List Point} {threshold : Float} {category : String}
    {plazas : List Plaza} {result : Bill}
    (made : bill route threshold category plazas = .ok result) :
    result.total = result.charges.foldl (fun sum charge => sum + charge.fee) 0 := by
  obtain ⟨tally, visited, made⟩ := bind_eq_ok.mp made
  obtain rfl := Except.ok.inj made
  rw [foldlM_visit] at visited
  have charges := charges_foldlM visited
  rw [charges.charges, List.foldl_map]
  exact charges.total

/-- A bill charges the plazas on the route that can be identified, whose identity is not that of an
earlier one, and that have a toll greater than zero; in the order of the data set, each with its
own name, position, toll and distance.  Its total is the sum of these tolls, from the first to the
last.  What is not a number counts as one identity. -/
theorem bill_eq {route : List Point} {threshold : Float} {category : String}
    {plazas : List Plaza} {result : Bill}
    (made : bill route threshold category plazas = .ok result) :
    let first := firsts sameIdentity (passing route threshold plazas)
    let charged := first.filterMap (due? category)
    (∀ passed ∈ first, ∃ fee, passed.plaza.fee category = .ok fee) ∧
      result.charges = charged.map Due.charge ∧
      (charged.Pairwise fun a b =>
        sameIdentity a.identity b.identity = false ∧
          sameIdentity b.identity a.identity = false) ∧
      result.total = charged.foldl (fun sum due => sum + due.fee) 0 := by
  unfold bill at made
  cases visited : plazas.foldlM (Tally.visit route threshold category) .start with
  | error fault =>
      rw [visited] at made
      cases made
  | ok tally =>
      rw [visited, ok_bind] at made
      obtain rfl := Except.ok.inj made
      rw [foldlM_visit] at visited
      have charges := charges_foldlM visited
      refine ⟨charges.fees, charges.charges, ?_, charges.total⟩
      refine (pairwise_firsts (passing route threshold plazas)).filterMap _ ?_
      intro a b differ first isFirst second isSecond
      rw [← toPassed_of_due? isFirst, ← toPassed_of_due? isSecond] at differ
      exact differ

/-- A plaza that is listed twice and one that is free.  The route is empty and the range infinite,
so no distance is measured. -/
theorem bill_eq_listed_twice :
    let plaza : Plaza := ⟨.text "NH44", "Murthal", some ⟨77, 29⟩, [("car", .float 110)], []⟩
    let free : Plaza := ⟨.null, "Panipat", some ⟨76, 29⟩, [], []⟩
    let infinity := Decimal.infinity
    ∃ result, bill [] infinity "car" [plaza, free, plaza] = .ok result ∧
      result.charges.length = 1 := by
  intro plaza free infinity
  have made : ((bill [] infinity "car" [plaza, free, plaza]).toOption).isSome = true := by
    decide +kernel
  cases outcome : bill [] infinity "car" [plaza, free, plaza] with
  | error fault =>
      rw [outcome] at made
      cases made
  | ok result =>
      refine ⟨result, rfl, ?_⟩
      rw [(bill_eq outcome).2.1]
      decide +kernel

/-- Whether two documents identify the same plaza if what is not a number equals nothing. -/
def equalIdentity : Json → Json → Bool
  | .float x, .float y => x == y
  | a, b => sameIdentity a b

/-- What is not a number is one identity: of two plazas that it identifies only the first one is
charged, although it does not equal itself. -/
theorem not_bill_eq_of_equalIdentity :
    ¬ ∀ (route : List Point) (threshold : Float) (category : String) (plazas : List Plaza)
        (result : Bill), bill route threshold category plazas = .ok result →
      result.charges =
        ((firsts equalIdentity (passing route threshold plazas)).filterMap
          (due? category)).map Due.charge := by
  intro all
  let plaza : Plaza := ⟨.float Decimal.undefinedFloat, "Murthal", some ⟨77, 29⟩, [],
    [("car", .float 10)]⟩
  have charged : (bill [] Decimal.infinity "car" [plaza, plaza]).toOption.map
      (fun result => result.charges.length) = some 1 := by decide +kernel
  cases made : bill [] Decimal.infinity "car" [plaza, plaza] with
  | error fault =>
      rw [made] at charged
      cases charged
  | ok result =>
      have listed := congrArg List.length (all _ _ _ _ result made)
      have twice : (((firsts equalIdentity (passing [] Decimal.infinity [plaza, plaza])).filterMap
          (due? "car")).map Due.charge).length = 2 := by decide +kernel
      have once : result.charges.length = 1 := by
        rw [made] at charged
        exact Option.some.inj charged
      omega

end JourneyCost.Toll
