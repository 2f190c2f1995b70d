import JourneyCost.Proofs.Decimal.Finite
import JourneyCost.Proofs.Toll.Isolation
import JourneyCost.Proofs.Toll.Reading

/-!
# The toll that a record gives

A record offers the toll of a class in up to six places.  The first offer that is a finite number is
the toll, and a record without one is free.  What stands before it and is no such number neither
hides nor changes it, unless it is an integer that no float can hold.
-/

namespace JourneyCost.Toll

open Json (IsHuge)

/-- The float that a number is, or that a text is read as without the blanks around it. -/
def tollValue? : Json → Option Float
  | .int n => Decimal.floatOfInt? n
  | .float x => some x
  | .text s => Decimal.readFloat? (Text.trim s)
  | _ => none

/-- A document is a toll: a number, or the text of one, that is finite. -/
structure IsToll (offer : Json) (fee : Float) : Prop where
  /-- It is a number. -/
  value : tollValue? offer = some fee
  /-- The number is finite. -/
  finite : fee.isFinite = true

/-- No document among these is a toll. -/
def NoTolls (offers : List Json) : Prop := ∀ offer ∈ offers, ∀ fee, ¬ IsToll offer fee

/-- The first toll among documents, or zero if there is none. -/
inductive FirstToll (offers : List Json) (fee : Float) : Prop where
  /-- There is one. -/
  | offered {before after : List Json} {offer : Json} :
      offers = before ++ offer :: after → NoTolls before → IsToll offer fee → FirstToll offers fee
  /-- There is none. -/
  | free : NoTolls offers → fee = 0 → FirstToll offers fee

/-- An integer that no float can hold comes before every toll. -/
def HugeOffer (offers : List Json) : Prop :=
  ∃ before offer after, offers = before ++ offer :: after ∧ NoTolls before ∧ offer.IsHuge

/-- Where a record may give the toll of a class, in order of preference.  The fares in an entry for
the class count only if the entry is an object. -/
def offers (record : Fields) (category : String) : List Json :=
  let fees : Fields :=
    match record.get "fees" with
    | .object fees => fees
    | _ => []
  let entry := fees.get category
  let fares :=
    match entry with
    | .object (fares : Fields) =>
      [fares.get "single", fares.get "singleFare", fares.get "fare", fares.get "amount"]
    | _ => []
  fares ++ [entry, record.get category]

variable {offer : Json} {fee : Float} {fault : Fault}

theorem IsToll.unique {other : Float} (one : IsToll offer fee) (another : IsToll offer other) :
    fee = other :=
  Option.some.inj (one.value.symm.trans another.value)

theorem IsToll.not_isHuge (toll : IsToll offer fee) : ¬ offer.IsHuge := by
  intro huge
  have value := toll.value
  cases offer with
  | int n =>
      have outside : Decimal.overflowLimit ≤ n.natAbs := huge
      simp [tollValue?, Decimal.floatOfInt?, outside] at value
  | null | bool | float | text | list | object => exact huge

theorem usableFee_eq_some_iff : usableFee offer = .ok (some fee) ↔ IsToll offer fee := by
  constructor
  · intro usable
    cases offer with
    | int n =>
        cases held : Decimal.floatOfInt? n with
        | none => simp [usableFee, held] at usable
        | some x =>
            obtain rfl : x = fee := by simpa [usableFee, held] using usable
            exact ⟨held, Decimal.isFinite_of_floatOfInt? held⟩
    | float x =>
        rw [usableFee] at usable
        split at usable
        · rename_i finite
          obtain rfl := Option.some.inj (Except.ok.inj usable)
          exact ⟨rfl, finite⟩
        · cases usable
    | text s =>
        obtain ⟨value, finite⟩ := Option.filter_eq_some_iff.mp (Except.ok.inj usable)
        exact ⟨value, finite⟩
    | null | bool | list | object => cases usable
  · rintro ⟨value, finite⟩
    cases offer with
    | int n =>
        have held : Decimal.floatOfInt? n = some fee := value
        rw [usableFee, held]
        rfl
    | float x =>
        obtain rfl := Option.some.inj value
        rw [usableFee, if_pos finite]
    | text s => exact congrArg Except.ok (Option.filter_eq_some_iff.mpr ⟨value, finite⟩)
    | null | bool | list | object => cases value

theorem usableFee_eq_none_iff :
    usableFee offer = .ok none ↔ (∀ fee, ¬ IsToll offer fee) ∧ ¬ offer.IsHuge := by
  constructor
  · intro passedOver
    refine ⟨fun fee toll => ?_, fun huge => ?_⟩
    · rw [usableFee_eq_some_iff.mpr toll] at passedOver
      cases Except.ok.inj passedOver
    · rw [usableFee_eq_error_iff.mpr ⟨rfl, huge⟩] at passedOver
      cases passedOver
  · rintro ⟨noToll, small⟩
    cases found : usableFee offer with
    | error cause => exact absurd (usableFee_eq_error_iff.mp found).2 small
    | ok found? =>
        cases found? with
        | none => rfl
        | some fee => exact absurd (usableFee_eq_some_iff.mp found) (noToll fee)

variable {documents more : List Json}

theorem noTolls_cons_iff :
    NoTolls (offer :: more) ↔ (∀ fee, ¬ IsToll offer fee) ∧ NoTolls more :=
  List.forall_mem_cons

theorem firstToll_cons_of_isToll {first : Float} (toll : IsToll offer first) :
    FirstToll (offer :: more) fee ↔ fee = first := by
  constructor
  · rintro (⟨split, noTolls, here⟩ | ⟨noTolls, -⟩)
    · rename_i before _ _
      cases before with
      | nil =>
          obtain ⟨rfl, -⟩ := List.cons.inj split
          exact here.unique toll
      | cons head before =>
          obtain ⟨rfl, -⟩ := List.cons.inj split
          exact absurd toll ((noTolls_cons_iff.mp noTolls).1 first)
    · exact absurd toll ((noTolls_cons_iff.mp noTolls).1 first)
  · rintro rfl
    exact .offered rfl (List.forall_mem_nil _) toll

theorem firstToll_cons_of_noToll (noToll : ∀ fee, ¬ IsToll offer fee) :
    FirstToll (offer :: more) fee ↔ FirstToll more fee := by
  constructor
  · rintro (⟨split, noTolls, toll⟩ | ⟨noTolls, zero⟩)
    · rename_i before _ _
      cases before with
      | nil =>
          obtain ⟨rfl, -⟩ := List.cons.inj split
          exact absurd toll (noToll fee)
      | cons head before =>
          obtain ⟨-, rfl⟩ := List.cons.inj split
          exact .offered rfl (noTolls_cons_iff.mp noTolls).2 toll
    · exact .free (noTolls_cons_iff.mp noTolls).2 zero
  · rintro (⟨rfl, noTolls, toll⟩ | ⟨noTolls, zero⟩)
    · exact .offered (List.cons_append ..).symm (noTolls_cons_iff.mpr ⟨noToll, noTolls⟩) toll
    · exact .free (noTolls_cons_iff.mpr ⟨noToll, noTolls⟩) zero

theorem not_hugeOffer_cons_of_isToll (toll : IsToll offer fee) : ¬ HugeOffer (offer :: more) := by
  rintro ⟨before, huge, after, split, noTolls, isHuge⟩
  cases before with
  | nil =>
      obtain ⟨rfl, -⟩ := List.cons.inj split
      exact toll.not_isHuge isHuge
  | cons head before =>
      obtain ⟨rfl, -⟩ := List.cons.inj split
      exact (noTolls_cons_iff.mp noTolls).1 fee toll

theorem hugeOffer_cons_of_noToll (noToll : ∀ fee, ¬ IsToll offer fee) (small : ¬ offer.IsHuge) :
    HugeOffer (offer :: more) ↔ HugeOffer more := by
  constructor
  · rintro ⟨before, huge, after, split, noTolls, isHuge⟩
    cases before with
    | nil =>
        obtain ⟨rfl, -⟩ := List.cons.inj split
        exact absurd isHuge small
    | cons head before =>
        obtain ⟨-, rfl⟩ := List.cons.inj split
        exact ⟨before, huge, after, rfl, (noTolls_cons_iff.mp noTolls).2, isHuge⟩
  · rintro ⟨before, huge, after, rfl, noTolls, isHuge⟩
    exact ⟨offer :: before, huge, after, rfl, noTolls_cons_iff.mpr ⟨noToll, noTolls⟩, isHuge⟩

theorem firstUsable_eq_ok_iff :
    firstUsable documents = .ok fee ↔ FirstToll documents fee ∧ ¬ HugeOffer documents := by
  induction documents with
  | nil =>
      constructor
      · intro free
        obtain rfl := Except.ok.inj free
        exact ⟨.free (List.forall_mem_nil _) rfl, by simp [HugeOffer]⟩
      · rintro ⟨⟨split, -, -⟩ | ⟨-, rfl⟩, -⟩
        · exact absurd split (by simp)
        · rfl
  | cons offer more induction =>
      rw [firstUsable]
      cases usable : usableFee offer with
      | error cause =>
          have huge : HugeOffer (offer :: more) :=
            ⟨[], offer, more, rfl, List.forall_mem_nil _, (usableFee_eq_error_iff.mp usable).2⟩
          exact iff_of_false (by simp) fun first => first.2 huge
      | ok found =>
          rw [ok_bind]
          cases found with
          | some x =>
              have toll := usableFee_eq_some_iff.mp usable
              rw [firstToll_cons_of_isToll toll,
                and_iff_left (not_hugeOffer_cons_of_isToll toll)]
              exact ⟨fun same => (Except.ok.inj same).symm,
                fun same => congrArg Except.ok same.symm⟩
          | none =>
              obtain ⟨noToll, small⟩ := usableFee_eq_none_iff.mp usable
              rw [firstToll_cons_of_noToll noToll, hugeOffer_cons_of_noToll noToll small]
              exact induction

theorem firstUsable_eq_error_iff_hugeOffer :
    firstUsable documents = .error fault ↔ fault = .overflow ∧ HugeOffer documents := by
  constructor
  · intro failed
    obtain ⟨overflow, before, huge, after, split, passedOver, isHuge⟩ :=
      firstUsable_eq_error_iff.mp failed
    refine ⟨overflow, before, huge, after, split, fun earlier member => ?_, isHuge⟩
    exact (usableFee_eq_none_iff.mp (passedOver earlier member)).1
  · rintro ⟨rfl, huge⟩
    cases found : firstUsable documents with
    | ok fee => exact absurd huge (firstUsable_eq_ok_iff.mp found).2
    | error cause => rw [firstUsable_eq_error found]

theorem FirstToll.isFinite (first : FirstToll documents fee) : fee.isFinite = true := by
  cases first with
  | offered _ _ toll => exact toll.finite
  | free _ zero =>
      rw [zero]
      decide +kernel

variable {record : Fields} {plaza : Plaza} {category : String}

/-- A plaza has its tolls from the places where its record may give them. -/
theorem candidates_of_ofRecord (read : Plaza.ofRecord record = .ok plaza) :
    candidates plaza category = offers record category := by
  obtain ⟨position, -, made⟩ := bind_eq_ok.mp read
  obtain rfl := Except.ok.inj made
  have fees : (record.get "fees").fields?.getD [] =
      match record.get "fees" with
      | .object fees => fees
      | _ => [] := by
    cases record.get "fees" <;> rfl
  rw [candidates, offers, fees]
  generalize Fields.get _ category = entry
  cases entry <;> rfl

/-- The toll of a class in a record is the first of the documents offered for it that is a finite
number, or zero, and always finite itself.  It cannot be told exactly if a coordinate of the record,
or an integer offered before every toll, is larger than any float. -/
theorem fee_of_record (record : Fields) (category : String) :
    let read := Plaza.ofRecord record >>= fun plaza => plaza.fee category
    (∀ fee, read = .ok fee ↔ FirstToll (offers record category) fee ∧
      ¬ HugeRecord record ∧ ¬ HugeOffer (offers record category)) ∧
    (∀ fee, read = .ok fee → fee.isFinite = true) ∧
    ∀ fault, read = .error fault ↔
      fault = .overflow ∧ (HugeRecord record ∨ HugeOffer (offers record category)) := by
  intro read
  have told : ∀ fee, read = .ok fee ↔ FirstToll (offers record category) fee ∧
      ¬ HugeRecord record ∧ ¬ HugeOffer (offers record category) := by
    intro fee
    cases made : Plaza.ofRecord record with
    | error cause =>
        have huge := (ofRecord_eq_error_iff.mp made).2
        exact iff_of_false (by simp [read, made]) fun first => first.2.1 huge
    | ok plaza =>
        have small : ¬ HugeRecord record := by
          intro huge
          rw [ofRecord_eq_error_iff.mpr ⟨rfl, huge⟩] at made
          cases made
        simp only [read, made, ok_bind, Plaza.fee, candidates_of_ofRecord made,
          firstUsable_eq_ok_iff, small, not_false_eq_true, true_and]
  refine ⟨told, fun fee returned => ((told fee).mp returned).1.isFinite, fun fault => ?_⟩
  refine bind_eq_error_iff_or (fun _ => ofRecord_eq_error_iff) fun plaza made => ?_
  rw [Plaza.fee, candidates_of_ofRecord made, firstUsable_eq_error_iff_hugeOffer]

/-- Two fares that are no numbers, one in a text, and a number that comes too late. -/
theorem fee_of_record_fares :
    let fares : Fields :=
      [("single", .bool true), ("singleFare", .text "n/a"), ("fare", .text " 55 ")]
    let record : Fields := [("fees", .object [("car", .object fares)]), ("car", .int 70)]
    let read := Plaza.ofRecord record >>= fun plaza => plaza.fee "car"
    read = .ok 55 ∧ FirstToll (offers record "car") 55 ∧ (55 : Float).isFinite = true := by
  intro fares record read
  have told : read.toOption = some 55 := by decide +kernel
  have returned := toOption_eq_some_iff.mp told
  obtain ⟨first, finite, -⟩ := fee_of_record record "car"
  exact ⟨returned, ((first 55).mp returned).1, finite 55 returned⟩

end JourneyCost.Toll
