import JourneyCost.Json.Value
import JourneyCost.Proofs.Fault

/-!
# Numbers read from documents

A number that cannot be read is forgiven almost everywhere; an integer that no float can hold is
not.  Positions are read as two numbers, one after the other, so such an integer counts in the
first place, and in the second if the first could be read.
-/

namespace JourneyCost.Json

/-- An integer that no float can hold. -/
def IsHuge : Json → Prop
  | .int n => Decimal.overflowLimit ≤ n.natAbs
  | _ => False

instance : DecidablePred IsHuge := fun value =>
  match value with
  | .int n => inferInstanceAs (Decidable (Decimal.overflowLimit ≤ n.natAbs))
  | .null | .bool _ | .float _ | .text _ | .list _ | .object _ => .isFalse id

section

variable {value : Json} {fault : Fault}

theorem toNumber_of_isHuge (huge : value.IsHuge) : value.toNumber = .error .overflow := by
  cases value with
  | int n =>
      have outside : Decimal.overflowLimit ≤ n.natAbs := huge
      simp [toNumber, Decimal.floatOfInt?, if_pos outside]
  | null | bool | float | text | list | object => exact huge.elim

theorem toNumber_eq_error (failed : value.toNumber = .error fault) :
    fault = .overflow ∧ value.IsHuge ∨ fault.isUnreadable = true := by
  cases value with
  | int n =>
      by_cases outside : Decimal.overflowLimit ≤ n.natAbs
      · have huge : (Json.int n).IsHuge := outside
        rw [toNumber_of_isHuge huge] at failed
        exact .inl ⟨(Except.error.inj failed).symm, huge⟩
      · simp [toNumber, Decimal.floatOfInt?, outside] at failed
  | text s =>
      unfold toNumber at failed
      cases number : Decimal.readFloat? s with
      | none =>
          obtain rfl : Fault.malformed = fault := by simpa [number] using failed
          exact .inr rfl
      | some x => simp [number] at failed
  | null | list | object =>
      obtain rfl : Fault.wrongKind = fault := Except.error.inj failed
      exact .inr rfl
  | bool | float => simp [toNumber] at failed

/-- A reader that forgives what is unreadable fails on huge integers alone. -/
theorem recoverWhen_toNumber_eq_error_iff {substitute : Float} :
    recoverWhen Fault.isUnreadable substitute value.toNumber = .error fault ↔
      fault = .overflow ∧ value.IsHuge := by
  rw [recoverWhen_eq_error]
  constructor
  · rintro ⟨failed, unforgiven⟩
    rcases toNumber_eq_error failed with overflow | unreadable
    · exact overflow
    · exact absurd unreadable (by simp [unforgiven])
  · rintro ⟨rfl, huge⟩
    exact ⟨toNumber_of_isHuge huge, rfl⟩

theorem item_eq_error {position : Nat} (failed : value.item position = .error fault) :
    fault = .missingMember ∧ (∃ fields, value = object fields) ∨
      fault = .missingItem ∨ fault = .wrongKind := by
  cases value with
  | list items =>
      cases found : items[position]? <;> simp_all [item]
  | text s =>
      cases found : s.toList[position]? <;> simp_all [item]
  | null | bool | int | float | object => simp_all [item]

theorem isUnusable_of_item {position : Nat} (failed : value.item position = .error fault) :
    fault.isUnusable = true := by
  rcases item_eq_error failed with ⟨rfl, -⟩ | rfl | rfl <;> rfl

theorem isUnusable_of_member {key : String} (failed : value.member key = .error fault) :
    fault.isUnusable = true := by
  cases value with
  | object fields =>
      cases found : fields.lookup key with
      | none =>
          obtain rfl : Fault.missingMember = fault := by simpa [member, found] using failed
          rfl
      | some inner => simp [member, found] at failed
  | null | bool | int | float | text | list =>
      obtain rfl : Fault.wrongKind = fault := Except.error.inj failed
      rfl

theorem isUnusable_of_isUnreadable (unreadable : fault.isUnreadable = true) :
    fault.isUnusable = true := by
  simp [Fault.isUnusable, unreadable]

end

/-- Two numbers, one read after the other. -/
def readPair {α : Type} (first second : Except Fault Json) (make : Float → Float → α) :
    Except Fault α := do
  let x ← (← first).toNumber
  let y ← (← second).toNumber
  return make x y

/-- The reading of two numbers comes to a huge integer. -/
def HugePair (first second : Except Fault Json) : Prop :=
  (∃ value, first = .ok value ∧ value.IsHuge) ∨
    ∃ value x other, first = .ok value ∧ value.toNumber = .ok x ∧ second = .ok other ∧
      other.IsHuge

section

variable {α : Type} {first second : Except Fault Json} {make : Float → Float → α} {fault : Fault}

theorem readPair_eq_error_iff :
    readPair first second make = .error fault ↔
      first = .error fault ∨ ∃ value, first = .ok value ∧
        (value.toNumber = .error fault ∨ ∃ x, value.toNumber = .ok x ∧
          (second = .error fault ∨
            ∃ other, second = .ok other ∧ other.toNumber = .error fault)) := by
  simp only [readPair, bind_eq_error, pure, Except.pure, reduceCtorEq, and_false, exists_false,
    or_false]

theorem readPair_of_hugePair (huge : HugePair first second) :
    readPair first second make = .error .overflow := by
  rw [readPair_eq_error_iff]
  rcases huge with ⟨value, found, huge⟩ | ⟨value, x, other, found, read, beside, huge⟩
  · exact .inr ⟨value, found, .inl (toNumber_of_isHuge huge)⟩
  · exact .inr ⟨value, found, .inr ⟨x, read, .inr ⟨other, beside, toNumber_of_isHuge huge⟩⟩⟩

/-- A reader that forgives everything but an overflow fails on huge integers alone. -/
theorem recoverWhen_readPair_eq_error_iff {belongs : Fault → Bool} {substitute : α}
    (forgivesUnreadable : ∀ cause, cause.isUnreadable = true → belongs cause = true)
    (forgivesFirst : ∀ cause, first = .error cause → belongs cause = true)
    (forgivesSecond : ∀ cause, second = .error cause → belongs cause = true)
    (stopsAtOverflow : belongs .overflow = false) :
    recoverWhen belongs substitute (readPair first second make) = .error fault ↔
      fault = .overflow ∧ HugePair first second := by
  have unforgiven : ∀ {value : Json} {cause : Fault}, value.toNumber = .error cause →
      belongs cause = false → cause = .overflow ∧ value.IsHuge := by
    intro value cause failed stops
    rcases toNumber_eq_error failed with overflow | unreadable
    · exact overflow
    · exact absurd (forgivesUnreadable cause unreadable) (by simp [stops])
  rw [recoverWhen_eq_error]
  constructor
  · rintro ⟨failed, stops⟩
    rcases readPair_eq_error_iff.mp failed with
      early | ⟨value, found, unread | ⟨x, read, late | ⟨other, beside, unread⟩⟩⟩
    · exact absurd (forgivesFirst fault early) (by simp [stops])
    · obtain ⟨overflow, huge⟩ := unforgiven unread stops
      exact ⟨overflow, .inl ⟨value, found, huge⟩⟩
    · exact absurd (forgivesSecond fault late) (by simp [stops])
    · obtain ⟨overflow, huge⟩ := unforgiven unread stops
      exact ⟨overflow, .inr ⟨value, x, other, found, read, beside, huge⟩⟩
  · rintro ⟨rfl, huge⟩
    exact ⟨readPair_of_hugePair huge, stopsAtOverflow⟩

/-- Two documents are numbers that make up a value. -/
def Tells (first second : Json) (make : Float → Float → α) (value : α) : Prop :=
  ∃ x y, first.toNumber = .ok x ∧ second.toNumber = .ok y ∧ make x y = value

theorem recoverWhen_readPair_eq_some_iff {first second : Json} {value : α} :
    recoverWhen Fault.isUnreadable none
        (readPair (.ok first) (.ok second) fun x y => some (make x y)) = .ok (some value) ↔
      first.Tells second make value := by
  rw [recoverWhen_none_eq_some_iff]
  simp only [readPair, ok_bind, bind_eq_ok, pure, Except.pure, Except.ok.injEq, Option.some.injEq]
  constructor
  · rintro ⟨x, readFirst, y, readSecond, same⟩
    exact ⟨x, y, readFirst, readSecond, same⟩
  · rintro ⟨x, y, readFirst, readSecond, same⟩
    exact ⟨x, readFirst, y, readSecond, same⟩

end

end JourneyCost.Json
