import JourneyCost.Proofs.Decimal.WholeValue
import JourneyCost.Toll.Plaza

/-!
# Identities of plazas

Documents that identify plazas fall into classes: a text, a whole number in any notation, or a float
that is not whole.  Two documents identify the same plaza exactly if they are of one class, so the
relation is symmetric and transitive.
-/

namespace JourneyCost.Toll

/-- What a document that identifies a plaza amounts to. -/
inductive Mark where
  /-- A text. -/
  | text (value : String)
  /-- A whole number. -/
  | whole (value : Int)
  /-- A float that is not whole. -/
  | broken (value : Float)

/-- What a document amounts to as an identity. -/
def mark? : Json → Option Mark
  | .text s => some (.text s)
  | .float x => some ((Decimal.wholeValue? x).elim (.broken x) .whole)
  | value => (wholeNumber? value).map .whole

theorem mark?_of_whole {x : Float} {m : Int} (whole : Decimal.wholeValue? x = some m) :
    mark? (.float x) = some (.whole m) := by
  rw [mark?, whole]
  rfl

theorem mark?_of_broken {x : Float} (broken : Decimal.wholeValue? x = none) :
    mark? (.float x) = some (.broken x) := by
  rw [mark?, broken]
  rfl

/-- Floats that are not whole are equal only if they are the same, for zeros are whole. -/
theorem eq_of_beq_of_broken {x y : Float} (broken : Decimal.wholeValue? x = none)
    (same : (x == y) = true) : x = y := by
  have notZero : ∀ z : Float, Decimal.wholeValue? z = some 0 → x ≠ z := by
    rintro z zero rfl
    rw [zero] at broken
    cases broken
  obtain ⟨-, -, rfl | ⟨rfl, -⟩ | ⟨rfl, -⟩⟩ := Float.beq_iff_ne_nan_and_eq.mp same
  · rfl
  · exact absurd rfl (notZero 0 Decimal.wholeValue?_zero)
  · exact absurd rfl (notZero (-0) Decimal.wholeValue?_negZero)

theorem mark?_eq_of_beq {x y : Float} (same : (x == y) = true) :
    mark? (.float x) = mark? (.float y) := by
  cases whole : Decimal.wholeValue? x with
  | some m =>
      have whole' := (Decimal.wholeValue?_congr same).symm.trans whole
      rw [mark?_of_whole whole, mark?_of_whole whole']
  | none => rw [eq_of_beq_of_broken whole same]

theorem beq_or_isNaN_iff {x y : Float} :
    (x == y || (x.isNaN && y.isNaN)) = true ↔ mark? (.float x) = mark? (.float y) := by
  rw [Bool.or_eq_true, Bool.and_eq_true]
  constructor
  · rintro (same | ⟨undefinedX, undefinedY⟩)
    · exact mark?_eq_of_beq same
    · rw [Float.isNaN_eq_decide_eq_nan, decide_eq_true_iff] at undefinedX undefinedY
      rw [undefinedX, undefinedY]
  · intro same
    cases wholeX : Decimal.wholeValue? x with
    | some m =>
        cases wholeY : Decimal.wholeValue? y with
        | some n =>
            rw [mark?_of_whole wholeX, mark?_of_whole wholeY] at same
            obtain rfl := Mark.whole.inj (Option.some.inj same)
            exact .inl (Decimal.beq_of_wholeValue? wholeX wholeY)
        | none =>
            rw [mark?_of_whole wholeX, mark?_of_broken wholeY] at same
            cases same
    | none =>
        cases wholeY : Decimal.wholeValue? y with
        | some n =>
            rw [mark?_of_broken wholeX, mark?_of_whole wholeY] at same
            cases same
        | none =>
            rw [mark?_of_broken wholeX, mark?_of_broken wholeY] at same
            obtain rfl := Mark.broken.inj (Option.some.inj same)
            by_cases undefined : x = Float.nan
            · exact .inr (by simp [Float.isNaN_eq_decide_eq_nan, undefined])
            · exact .inl (Float.beq_self_iff.mpr undefined)

theorem mark?_eq_whole_iff {value : Json} {m : Int} :
    mark? value = some (.whole m) ↔ wholeNumber? value = some m := by
  cases value with
  | float x => cases whole : Decimal.wholeValue? x <;> simp [mark?, wholeNumber?, whole]
  | null | bool _ | int _ | text _ | list _ | object _ => simp [mark?, wholeNumber?]

theorem eq_text_of_mark? {value : Json} {s : String} (mark : mark? value = some (.text s)) :
    value = .text s := by
  cases value with
  | text t => simpa [mark?] using mark
  | float x => cases whole : Decimal.wholeValue? x <;> simp [mark?, whole] at mark
  | null | bool _ | int _ | list _ | object _ => simp [mark?, wholeNumber?] at mark

theorem eq_float_of_mark? {value : Json} {x : Float} (mark : mark? value = some (.broken x)) :
    value = .float x := by
  cases value with
  | float y => cases whole : Decimal.wholeValue? y <;> simp_all [mark?]
  | null | bool _ | int _ | text _ | list _ | object _ => simp [mark?, wholeNumber?] at mark

/-- Documents identify the same plaza exactly if they amount to the same. -/
theorem sameIdentity_iff {a b : Json} :
    sameIdentity a b = true ↔ ∃ mark, mark? a = some mark ∧ mark? b = some mark := by
  unfold sameIdentity
  split
  · simpa [mark?] using eq_comm
  · rw [beq_or_isNaN_iff]
    simpa [mark?] using eq_comm
  · rename_i notTexts notFloats
    constructor
    · intro same
      split at same
      · rename_i m n first second
        obtain rfl := beq_iff_eq.mp same
        exact ⟨.whole m, mark?_eq_whole_iff.mpr first, mark?_eq_whole_iff.mpr second⟩
      · cases same
    · rintro ⟨mark, first, second⟩
      cases mark with
      | text s => exact (notTexts s s (eq_text_of_mark? first) (eq_text_of_mark? second)).elim
      | broken x => exact (notFloats x x (eq_float_of_mark? first) (eq_float_of_mark? second)).elim
      | whole m =>
          rw [mark?_eq_whole_iff.mp first, mark?_eq_whole_iff.mp second]
          exact beq_iff_eq.mpr rfl

theorem sameIdentity_symm {a b : Json} (same : sameIdentity a b = true) :
    sameIdentity b a = true := by
  obtain ⟨mark, first, second⟩ := sameIdentity_iff.mp same
  exact sameIdentity_iff.mpr ⟨mark, second, first⟩

theorem sameIdentity_trans {a b c : Json} (first : sameIdentity a b = true)
    (second : sameIdentity b c = true) : sameIdentity a c = true := by
  obtain ⟨mark, markA, markB⟩ := sameIdentity_iff.mp first
  obtain ⟨other, otherB, markC⟩ := sameIdentity_iff.mp second
  obtain rfl : mark = other := Option.some.inj (markB.symm.trans otherB)
  exact sameIdentity_iff.mpr ⟨mark, markA, markC⟩

end JourneyCost.Toll
