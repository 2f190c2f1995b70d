import JourneyCost.Proofs.Fault
import JourneyCost.Proofs.Toll.Priority

/-!
# Plazas taken for one

A plaza that has a toll is left out of a bill if an earlier plaza in range has the same identity.
Records without a name share one, and names are compared with identifiers, so plazas that have
nothing to do with each other can be taken for one.
-/

namespace JourneyCost.Toll

/-- The name under which the plaza of a record is shown. -/
def shownName (record : Fields) : String :=
  ((record.get "name").orElse (.text Plaza.unnamed)).display

/-- The records of two plazas say that they are the same plaza. -/
inductive SamePlaza (a b : Fields) : Prop where
  /-- Their identifiers are equal. -/
  | identifiers : equalIdentity (a.get "id") (b.get "id") = true → SamePlaza a b
  /-- They have no identifiers, and their names are equal. -/
  | names : a.get "id" = .null → b.get "id" = .null →
      (a.get "name").isTruthy = true → (b.get "name").isTruthy = true →
      shownName a = shownName b → SamePlaza a b

/-- The records of two plazas do not say that they are the same plaza, but they are taken for it. -/
inductive Confused (a b : Fields) : Prop where
  /-- Their identifiers are not numbers, and not equal. -/
  | undefined {x y : Float} : a.get "id" = .float x → b.get "id" = .float y →
      x.isNaN = true → y.isNaN = true → Confused a b
  /-- They have no identifiers, and the name that stands for a missing one is that of the other. -/
  | unnamed : a.get "id" = .null → b.get "id" = .null →
      (a.get "name").isTruthy = false ∨ (b.get "name").isTruthy = false →
      shownName a = shownName b → Confused a b
  /-- The identifier of the first is the name of the second. -/
  | identifierOfName : a.get "id" = .text (shownName b) → b.get "id" = .null → Confused a b
  /-- The name of the first is the identifier of the second. -/
  | nameOfIdentifier : a.get "id" = .null → b.get "id" = .text (shownName a) → Confused a b

variable {route : List Point} {threshold : Float} {category : String}

theorem sameIdentity_text_iff {s : String} {value : Json} :
    sameIdentity (.text s) value = true ↔ value = .text s := by
  rw [sameIdentity_iff]
  constructor
  · rintro ⟨mark, isText, marked⟩
    obtain rfl := Option.some.inj isText
    exact eq_text_of_mark? marked
  · rintro rfl
    exact ⟨.text s, rfl, rfl⟩

/-- What is not a number is not equal to itself, but it identifies the same plaza. -/
theorem sameIdentity_iff_equal {a b : Json} :
    sameIdentity a b = true ↔ equalIdentity a b = true ∨
      ∃ x y, a = .float x ∧ b = .float y ∧ x.isNaN = true ∧ y.isNaN = true := by
  unfold equalIdentity
  split
  · simp [sameIdentity]
  · rename_i notFloats
    refine ⟨.inl, ?_⟩
    rintro (same | ⟨x, y, rfl, rfl, -, -⟩)
    · exact same
    · exact (notFloats x y rfl rfl).elim

/-- A document that identifies something is not null. -/
theorem ne_null_of_sameIdentity {a b : Json} (same : sameIdentity a b = true) : a ≠ .null := by
  rintro rfl
  obtain ⟨mark, marked, -⟩ := sameIdentity_iff.mp same
  cases marked

variable {a b : Fields} {first second : Plaza}

theorem record_of_ofRecord (read : Plaza.ofRecord a = .ok first) : first.record = a := by
  obtain ⟨position, -, made⟩ := bind_eq_ok.mp read
  obtain rfl := Except.ok.inj made
  rfl

theorem ofRecord_of_position {p : Point} (position : Plaza.recordedPosition a = .ok (some p))
    (known : Plaza.isOrigin p = false) :
    Plaza.ofRecord a =
      .ok ⟨a.get "id", shownName a, some p, (a.get "fees").fields?.getD [], a⟩ := by
  rw [Plaza.ofRecord, position, ok_bind, Option.filter_some, known]
  rfl

theorem mapM_ofRecord_pair (readFirst : Plaza.ofRecord a = .ok first)
    (readSecond : Plaza.ofRecord b = .ok second) :
    [a, b].mapM Plaza.ofRecord = .ok [first, second] := by
  rw [List.mapM_cons, readFirst, ok_bind, List.mapM_cons, readSecond]
  rfl

theorem identity_of_null (read : Plaza.ofRecord a = .ok first) (none : a.get "id" = .null) :
    first.identity = .text (shownName a) := by
  obtain ⟨position, -, made⟩ := bind_eq_ok.mp read
  obtain rfl := Except.ok.inj made
  simp only [Plaza.identity, none]
  rfl

theorem identity_of_ne_null (read : Plaza.ofRecord a = .ok first) (given : a.get "id" ≠ .null) :
    first.identity = a.get "id" := by
  obtain ⟨position, -, made⟩ := bind_eq_ok.mp read
  obtain rfl := Except.ok.inj made
  unfold Plaza.identity
  split
  · rename_i none
    exact absurd none given
  · rfl

theorem sameIdentity_of_samePlaza (readFirst : Plaza.ofRecord a = .ok first)
    (readSecond : Plaza.ofRecord b = .ok second) (same : SamePlaza a b) :
    sameIdentity first.identity second.identity = true := by
  cases same with
  | identifiers equal =>
      have same := sameIdentity_iff_equal.mpr (.inl equal)
      rw [identity_of_ne_null readFirst (ne_null_of_sameIdentity same),
        identity_of_ne_null readSecond (ne_null_of_sameIdentity (sameIdentity_symm same))]
      exact same
  | names noneA noneB _ _ same =>
      rw [identity_of_null readFirst noneA, identity_of_null readSecond noneB, same]
      exact sameIdentity_text_iff.mpr rfl

theorem sameIdentity_of_confused (readFirst : Plaza.ofRecord a = .ok first)
    (readSecond : Plaza.ofRecord b = .ok second) (confused : Confused a b) :
    sameIdentity first.identity second.identity = true := by
  cases confused with
  | undefined isFloat isFloat' undefined undefined' =>
      rw [identity_of_ne_null readFirst (by simp [isFloat]),
        identity_of_ne_null readSecond (by simp [isFloat']), isFloat, isFloat']
      exact sameIdentity_iff_equal.mpr (.inr ⟨_, _, rfl, rfl, undefined, undefined'⟩)
  | unnamed noneA noneB _ same =>
      rw [identity_of_null readFirst noneA, identity_of_null readSecond noneB, same]
      exact sameIdentity_text_iff.mpr rfl
  | identifierOfName same noneB =>
      rw [identity_of_ne_null readFirst (by simp [same]), identity_of_null readSecond noneB, same]
      exact sameIdentity_text_iff.mpr rfl
  | nameOfIdentifier noneA same =>
      rw [identity_of_null readFirst noneA, identity_of_ne_null readSecond (by simp [same]), same]
      exact sameIdentity_text_iff.mpr rfl

theorem samePlaza_or_confused (readFirst : Plaza.ofRecord a = .ok first)
    (readSecond : Plaza.ofRecord b = .ok second)
    (same : sameIdentity first.identity second.identity = true) :
    SamePlaza a b ∨ Confused a b := by
  by_cases noneA : a.get "id" = .null <;> by_cases noneB : b.get "id" = .null
  · rw [identity_of_null readFirst noneA, identity_of_null readSecond noneB,
      sameIdentity_text_iff, Json.text.injEq] at same
    cases namedA : (a.get "name").isTruthy with
    | false => exact .inr (.unnamed noneA noneB (.inl namedA) same.symm)
    | true =>
        cases namedB : (b.get "name").isTruthy with
        | false => exact .inr (.unnamed noneA noneB (.inr namedB) same.symm)
        | true => exact .inl (.names noneA noneB namedA namedB same.symm)
  · rw [identity_of_null readFirst noneA, identity_of_ne_null readSecond noneB,
      sameIdentity_text_iff] at same
    exact .inr (.nameOfIdentifier noneA same)
  · replace same := sameIdentity_symm same
    rw [identity_of_ne_null readFirst noneA, identity_of_null readSecond noneB,
      sameIdentity_text_iff] at same
    exact .inr (.identifierOfName same noneB)
  · rw [identity_of_ne_null readFirst noneA, identity_of_ne_null readSecond noneB] at same
    rcases sameIdentity_iff_equal.mp same with equal | ⟨x, y, isFloat, isFloat', undefined⟩
    · exact .inl (.identifiers equal)
    · exact .inr (.undefined isFloat isFloat' undefined.1 undefined.2)

/-- Plazas share an identity exactly if their records say that they are the same plaza, or if they
are confused. -/
theorem sameIdentity_iff_records (readFirst : Plaza.ofRecord a = .ok first)
    (readSecond : Plaza.ofRecord b = .ok second) :
    sameIdentity first.identity second.identity = true ↔ SamePlaza a b ∨ Confused a b := by
  refine ⟨samePlaza_or_confused readFirst readSecond, ?_⟩
  rintro (same | confused)
  · exact sameIdentity_of_samePlaza readFirst readSecond same
  · exact sameIdentity_of_confused readFirst readSecond confused

variable {front back : List Plaza} {plaza : Plaza}

theorem any_passing_iff {key : Json} :
    ((passing route threshold front).any fun earlier => sameIdentity key earlier.identity) = true ↔
      ∃ earlier ∈ front, (passed? route threshold earlier).isSome = true ∧
        sameIdentity key earlier.identity = true := by
  rw [passing, List.any_filterMap, List.any_eq_true]
  exact exists_congr fun earlier => and_congr_right fun _ => stands_iff

/-- A plaza in range adds its toll, unless an earlier plaza in range has its identity. -/
theorem charged_concat {passed : Passed} (inRange : passed? route threshold plaza = some passed) :
    charged route threshold category (front ++ [plaza]) =
      charged route threshold category front ++
        if (passing route threshold front).any fun earlier =>
            sameIdentity plaza.identity earlier.identity
        then [] else (due? category passed).toList := by
  have one : passing route threshold [plaza] = [passed] := by simp [passing, inRange]
  have same : passed.identity = plaza.identity := by
    rw [Passed.identity, (passed?_eq_some_iff.mp inRange).1]
  rw [charged, passing, List.filterMap_append, ← passing, ← passing, one, firsts_concat,
    List.filterMap_append, same]
  congr 1
  split
  · rfl
  · cases found : due? category passed <;> simp [found]

theorem firsts_append_left (same : Json → Json → Bool) (front back : List Passed) :
    firsts same front <+: firsts same (front ++ back) := by
  induction back using List.reverseRecOn with
  | nil => rw [List.append_nil]
  | append_singleton back last induction =>
      rw [← List.append_assoc, firsts_concat]
      exact induction.trans (List.prefix_append _ _)

theorem charged_append_left (front back : List Plaza) :
    charged route threshold category front <+:
      charged route threshold category (front ++ back) := by
  have split : passing route threshold (front ++ back) =
      passing route threshold front ++ passing route threshold back := List.filterMap_append
  rw [charged, charged, split]
  exact (firsts_append_left _ _ _).filterMap _

/-- If the plazas of a data set have a bill, so have those at its start. -/
theorem bill_of_append {result : Bill}
    (made : bill route threshold category (front ++ back) = .ok result) :
    ∃ before, bill route threshold category front = .ok before := by
  obtain ⟨tally, visited, -⟩ := bind_eq_ok.mp made
  rw [List.foldlM_append] at visited
  obtain ⟨middle, begun, -⟩ := bind_eq_ok.mp visited
  exact ⟨middle.toBill, by rw [bill, begun, ok_bind]; rfl⟩

/-- At its turn a plaza in range that has a toll is charged, or left out for an earlier plaza in
range with its identity. -/
theorem charges_at_turn {before after : Bill}
    (begun : bill route threshold category front = .ok before)
    (made : bill route threshold category (front ++ [plaza]) = .ok after)
    (inRange : (passed? route threshold plaza).isSome = true) (priced : plaza.IsPriced category) :
    (after.charges = before.charges ↔
        ∃ earlier ∈ front, (passed? route threshold earlier).isSome = true ∧
          sameIdentity plaza.identity earlier.identity = true) ∧
      (after.charges = before.charges ∨
        ∃ due : Due, due.plaza = plaza ∧ after.charges = before.charges ++ [due.charge]) := by
  obtain ⟨passed, found⟩ := Option.isSome_iff_exists.mp inRange
  have own : passed.plaza = plaza := (passed?_eq_some_iff.mp found).1
  rw [← own] at priced
  obtain ⟨due, isDue⟩ := Option.isSome_iff_exists.mp (isSome_due?_iff.mpr priced)
  have ownDue : due.plaza = plaza := (congrArg Passed.plaza (toPassed_of_due? isDue)).trans own
  rw [charges_of_bill begun, charges_of_bill made, charged_concat found, ← any_passing_iff, isDue]
  split
  · rename_i known
    rw [List.append_nil]
    exact ⟨iff_of_true rfl known, .inl rfl⟩
  · rename_i unknown
    rw [List.map_append]
    refine ⟨iff_of_false (fun same => ?_) unknown, .inr ⟨due, ownDue, rfl⟩⟩
    simp at same

/-- A plaza in range that has a toll is left out of a bill exactly if an earlier plaza in range is
the same plaza by their records, or is confused with it.  Otherwise its toll is one of those that
the bill charges. -/
theorem bill_leaves_out_iff {records : List Fields} {plazas : List Plaza} {result : Bill}
    (read : records.mapM Plaza.ofRecord = .ok plazas) (split : plazas = front ++ plaza :: back)
    (made : bill route threshold category plazas = .ok result)
    (inRange : (passed? route threshold plaza).isSome = true) (priced : plaza.IsPriced category) :
    ∃ before after, bill route threshold category front = .ok before ∧
      bill route threshold category (front ++ [plaza]) = .ok after ∧
      after.charges <+: result.charges ∧
      (after.charges = before.charges ∨
        ∃ due : Due, due.plaza = plaza ∧ after.charges = before.charges ++ [due.charge]) ∧
      (after.charges = before.charges ↔
        ∃ earlier ∈ front, (passed? route threshold earlier).isSome = true ∧
          (SamePlaza earlier.record plaza.record ∨ Confused earlier.record plaza.record)) := by
  have own : ∀ member ∈ plazas, Plaza.ofRecord member.record = .ok member := by
    intro member isMember
    obtain ⟨record, -, described⟩ := (mem_iff_of_mapM read).mp isMember
    rw [record_of_ofRecord described]
    exact described
  have ownPlaza := own plaza (by simp [split])
  have early : ∀ earlier ∈ front, earlier ∈ plazas := fun earlier member => by simp [split, member]
  have regrouped : plazas = (front ++ [plaza]) ++ back := by simp [split]
  rw [regrouped] at made
  obtain ⟨after, madeAfter⟩ := bill_of_append made
  obtain ⟨before, madeBefore⟩ := bill_of_append madeAfter
  obtain ⟨leftOut, added⟩ := charges_at_turn madeBefore madeAfter inRange priced
  refine ⟨before, after, madeBefore, madeAfter, ?_, added, leftOut.trans ?_⟩
  · rw [charges_of_bill madeAfter, charges_of_bill made]
    exact (charged_append_left _ _).map _
  · refine exists_congr fun earlier => and_congr_right fun member => and_congr_right fun _ => ?_
    rw [← sameIdentity_iff_records (own earlier (early earlier member)) ownPlaza]
    exact ⟨sameIdentity_symm, sameIdentity_symm⟩

/-- A plaza that is listed twice, with two names and two tolls, on an empty route with an infinite
range. -/
theorem bill_leaves_out_iff_listed_twice :
    let a : Fields := [("id", .text "T1"), ("name", .text "Murthal"), ("lat", .float 29),
      ("lon", .float 77), ("car", .float 10)]
    let b : Fields := [("id", .text "T1"), ("name", .text "NH44"), ("lat", .float 29),
      ("lon", .float 77), ("car", .float 20)]
    let first : Plaza := ⟨.text "T1", "Murthal", some ⟨77, 29⟩, [], a⟩
    let second : Plaza := ⟨.text "T1", "NH44", some ⟨77, 29⟩, [], b⟩
    [a, b].mapM Plaza.ofRecord = .ok [first, second] ∧ SamePlaza a b ∧
      ∃ before after, bill [] Decimal.infinity "car" [first] = .ok before ∧
        bill [] Decimal.infinity "car" [first, second] = .ok after ∧
        after.charges = before.charges := by
  intro a b first second
  have readFirst : Plaza.ofRecord a = .ok first :=
    ofRecord_of_position (p := ⟨77, 29⟩) rfl (by decide +kernel)
  have readSecond : Plaza.ofRecord b = .ok second :=
    ofRecord_of_position (p := ⟨77, 29⟩) rfl (by decide +kernel)
  have read : [a, b].mapM Plaza.ofRecord = .ok [first, second] :=
    mapM_ofRecord_pair readFirst readSecond
  have same : SamePlaza a b := .identifiers (by decide +kernel)
  obtain ⟨result, made⟩ :
      ∃ result, bill [] Decimal.infinity "car" [first, second] = .ok result :=
    exists_bill (by decide +kernel)
  have inRange : ∀ plaza : Plaza, plaza = first ∨ plaza = second →
      (passed? [] Decimal.infinity plaza).isSome = true := by
    rintro plaza (rfl | rfl) <;> decide +kernel
  have priced : second.IsPriced "car" := by decide +kernel
  have split : [first, second] = [first] ++ second :: [] := rfl
  obtain ⟨before, after, madeBefore, madeAfter, -, -, leftOut⟩ :=
    bill_leaves_out_iff read split made (inRange _ (.inr rfl)) priced
  exact ⟨read, same, before, after, madeBefore, madeAfter,
    leftOut.mpr ⟨first, List.mem_cons_self, inRange _ (.inl rfl), .inl same⟩⟩

/-- Of two plazas without identifiers and names only the first one is charged. -/
theorem not_samePlaza_of_leftOut :
    ¬ ∀ (route : List Point) (threshold : Float) (category : String) (records : List Fields)
        (plazas front back : List Plaza) (plaza : Plaza) (before after result : Bill),
      records.mapM Plaza.ofRecord = .ok plazas → plazas = front ++ plaza :: back →
      bill route threshold category plazas = .ok result →
      (passed? route threshold plaza).isSome = true → plaza.IsPriced category →
      bill route threshold category front = .ok before →
      bill route threshold category (front ++ [plaza]) = .ok after →
      after.charges = before.charges →
      ∃ earlier ∈ front, (passed? route threshold earlier).isSome = true ∧
        SamePlaza earlier.record plaza.record := by
  intro all
  let a : Fields := [("lat", .float 29), ("lon", .float 77), ("car", .float 10)]
  let b : Fields := [("lat", .float 29), ("lon", .float 77), ("car", .float 20)]
  let first : Plaza := ⟨.null, Plaza.unnamed, some ⟨77, 29⟩, [], a⟩
  let second : Plaza := ⟨.null, Plaza.unnamed, some ⟨77, 29⟩, [], b⟩
  have readFirst : Plaza.ofRecord a = .ok first :=
    ofRecord_of_position (p := ⟨77, 29⟩) rfl (by decide +kernel)
  have readSecond : Plaza.ofRecord b = .ok second :=
    ofRecord_of_position (p := ⟨77, 29⟩) rfl (by decide +kernel)
  have read : [a, b].mapM Plaza.ofRecord = .ok [first, second] :=
    mapM_ofRecord_pair readFirst readSecond
  obtain ⟨before, madeBefore⟩ :
      ∃ result, bill [] Decimal.infinity "car" [first] = .ok result :=
    exists_bill (by decide +kernel)
  obtain ⟨after, madeAfter⟩ :
      ∃ result, bill [] Decimal.infinity "car" [first, second] = .ok result :=
    exists_bill (by decide +kernel)
  have inRange : ∀ plaza : Plaza, plaza = first ∨ plaza = second →
      (passed? [] Decimal.infinity plaza).isSome = true := by
    rintro plaza (rfl | rfl) <;> decide +kernel
  have priced : second.IsPriced "car" := by decide +kernel
  have leftOut : after.charges = before.charges :=
    (charges_at_turn madeBefore madeAfter (inRange _ (.inr rfl)) priced).1.mpr
      ⟨first, List.mem_cons_self, inRange _ (.inl rfl), by decide +kernel⟩
  obtain ⟨earlier, member, -, same⟩ := all [] Decimal.infinity "car" [a, b] [first, second] [first]
    [] second before after after read rfl madeAfter (inRange _ (.inr rfl)) priced madeBefore
    madeAfter leftOut
  obtain rfl := List.mem_singleton.mp member
  cases same with
  | identifiers same => exact absurd same (by decide +kernel)
  | names _ _ named => exact absurd named (by decide +kernel)

end JourneyCost.Toll
