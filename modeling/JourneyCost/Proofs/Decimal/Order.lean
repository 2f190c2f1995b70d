import Mathlib

/-!
# The order of floats

Floats are put on a line of ranks, what is not a number last.  Comparisons of floats are comparisons
of ranks, but for what is not a number, which is in no order with anything.
-/

namespace JourneyCost.Decimal

open Float.Model

/-- Ranks: a class of signs and sizes, then the exponent, then the mantissa. -/
abbrev Rank : Type := ℤ ×ₗ ℤ ×ₗ ℤ

/-- A rank with its three parts. -/
def Rank.mk (kind exponent mantissa : ℤ) : Rank := toLex (kind, toLex (exponent, mantissa))

/-- The rank of an unpacked float; below zero exponents and mantissas count down. -/
def unpackedRank : UnpackedFloat → Rank
  | .infinity .negative => .mk (-2) 0 0
  | .finite .negative mantissa exponent _ => .mk (-1) (-exponent) (-mantissa)
  | .zero _ => .mk 0 0 0
  | .finite .positive mantissa exponent _ => .mk 1 exponent mantissa
  | .infinity .positive => .mk 2 0 0
  | .notANumber => .mk 3 0 0

/-- The rank of a float. -/
def rank (x : Float) : Rank := unpackedRank x.toModel.unpack

@[simp] theorem Rank.mk_le_mk {a b c d e f : ℤ} :
    Rank.mk a b c ≤ Rank.mk d e f ↔ a < d ∨ a = d ∧ (b < e ∨ b = e ∧ c ≤ f) := by
  simp [Rank.mk, Prod.Lex.toLex_le_toLex]

@[simp] theorem Rank.mk_inj {a b c d e f : ℤ} :
    Rank.mk a b c = Rank.mk d e f ↔ a = d ∧ b = e ∧ c = f := by
  simp [Rank.mk, Prod.ext_iff]

@[simp] theorem Rank.mk_lt_mk {a b c d e f : ℤ} :
    Rank.mk a b c < Rank.mk d e f ↔ a < d ∨ a = d ∧ (b < e ∨ b = e ∧ c < f) := by
  simp [Rank.mk, Prod.Lex.toLex_lt_toLex]

section

variable {e f : ℤ} {m n : ℕ}

theorem then_compare_eq_lt :
    (compare e f).then (compare m n) = .lt ↔ e < f ∨ e = f ∧ m < n := by
  rcases lt_trichotomy e f with less | rfl | greater
  · simp [compare_lt_iff_lt.mpr less, less]
  · simp [compare_lt_iff_lt]
  · simp [compare_gt_iff_gt.mpr greater, not_lt_of_gt greater, ne_of_gt greater]

theorem then_compare_eq_gt :
    (compare e f).then (compare m n) = .gt ↔ f < e ∨ e = f ∧ n < m := by
  rcases lt_trichotomy e f with less | rfl | greater
  · simp [compare_lt_iff_lt.mpr less, not_lt_of_gt less, ne_of_lt less]
  · simp [compare_gt_iff_gt]
  · simp [compare_gt_iff_gt.mpr greater, greater]

theorem isLE_then_compare :
    ((compare e f).then (compare m n)).isLE = true ↔ e < f ∨ e = f ∧ m ≤ n := by
  rw [Ordering.isLE_iff_ne_gt, then_compare_eq_gt]
  omega

theorem isGE_then_compare :
    ((compare e f).then (compare m n)).isGE = true ↔ f < e ∨ e = f ∧ n ≤ m := by
  rw [Ordering.isGE_iff_ne_lt, then_compare_eq_lt]
  omega

end

theorem compare_sign (s t : UnpackedFloat.Sign) :
    compare s t =
      match s, t with
      | .negative, .positive => .lt
      | .positive, .negative => .gt
      | _, _ => .eq := by
  cases s <;> cases t <;> rfl

theorem unpacked_le_iff (a b : UnpackedFloat) :
    a.le b = true ↔ unpackedRank a ≤ unpackedRank b ∧ b ≠ .notANumber := by
  rcases a with ⟨_ | _⟩ | _ | _ | ⟨_ | _, m, e, pos⟩ <;>
    rcases b with ⟨_ | _⟩ | _ | _ | ⟨_ | _, n, f, pos'⟩ <;>
    simp [UnpackedFloat.le, UnpackedFloat.compare, unpackedRank, compare_sign,
      isLE_then_compare, isGE_then_compare]

theorem unpacked_lt_iff (a b : UnpackedFloat) :
    a.lt b = true ↔ unpackedRank a < unpackedRank b ∧ b ≠ .notANumber := by
  rcases a with ⟨_ | _⟩ | _ | _ | ⟨_ | _, m, e, pos⟩ <;>
    rcases b with ⟨_ | _⟩ | _ | _ | ⟨_ | _, n, f, pos'⟩ <;>
    simp [UnpackedFloat.lt, UnpackedFloat.compare, unpackedRank, compare_sign,
      then_compare_eq_lt, then_compare_eq_gt]

theorem eq_of_unpackedRank_eq {a b : UnpackedFloat} (same : unpackedRank a = unpackedRank b)
    (nonzero : unpackedRank a ≠ .mk 0 0 0) : a = b := by
  rcases a with ⟨_ | _⟩ | _ | _ | ⟨_ | _, m, e, pos⟩ <;>
    rcases b with ⟨_ | _⟩ | _ | _ | ⟨_ | _, n, f, pos'⟩ <;>
    simp_all [unpackedRank]

section

variable {x y : Float}

theorem unpack_eq_notANumber_iff : x.toModel.unpack = .notANumber ↔ x = Float.nan := by
  rw [← UnpackedFloat.isNaN_iff]
  change x.isNaN = true ↔ _
  rw [Float.isNaN_eq_decide_eq_nan, decide_eq_true_iff]

theorem le_iff : x ≤ y ↔ rank x ≤ rank y ∧ y ≠ Float.nan := by
  rw [Ne, ← unpack_eq_notANumber_iff]
  change decide (x.toModel.unpack.le y.toModel.unpack = true) = true ↔ _
  rw [decide_eq_true_iff, unpacked_le_iff]
  rfl

theorem lt_iff : x < y ↔ rank x < rank y ∧ y ≠ Float.nan := by
  rw [Ne, ← unpack_eq_notANumber_iff]
  change decide (x.toModel.unpack.lt y.toModel.unpack = true) = true ↔ _
  rw [decide_eq_true_iff, unpacked_lt_iff]
  rfl

theorem nan_ne_zero : (0 : Float) ≠ Float.nan := by decide +kernel

theorem rank_zero : rank 0 = .mk 0 0 0 := rfl

theorem rank_le_nan : rank x ≤ rank Float.nan := by
  have last : rank Float.nan = .mk 3 0 0 := rfl
  rw [last, rank]
  rcases x.toModel.unpack with ⟨_ | _⟩ | _ | _ | ⟨_ | _, m, e, pos⟩ <;> simp [unpackedRank]

theorem not_le_zero_iff (defined : x ≠ Float.nan) : ¬ x ≤ 0 ↔ 0 < x := by
  rw [le_iff, lt_iff, not_and_not_right, lt_iff_not_ge]
  exact ⟨fun above => ⟨fun below => nan_ne_zero (above below), defined⟩,
    fun above below => absurd below above.1⟩

theorem not_le_zero_of_pos (positive : 0 < x) : ¬ x ≤ 0 := fun below =>
  absurd (le_iff.mp below).1 (not_le_of_gt (lt_iff.mp positive).1)

/-- Finite floats stand between the infinities. -/
theorem isFinite_iff :
    x.isFinite = true ↔ Rank.mk (-2) 0 0 < rank x ∧ rank x < Rank.mk 2 0 0 := by
  change x.toModel.unpack.isFinite = true ↔ _
  rw [rank]
  rcases x.toModel.unpack with ⟨_ | _⟩ | _ | _ | ⟨_ | _, m, e, pos⟩ <;>
    simp [unpackedRank, UnpackedFloat.isFinite]

theorem ne_nan_of_isFinite (finite : x.isFinite = true) : x ≠ Float.nan := by
  rintro rfl
  exact absurd finite (by decide +kernel)

theorem isFinite_of_le_of_le {least greatest : Float} (above : least ≤ x) (below : x ≤ greatest)
    (first : least.isFinite = true) (last : greatest.isFinite = true) : x.isFinite = true :=
  isFinite_iff.mpr ⟨(isFinite_iff.mp first).1.trans_le (le_iff.mp above).1,
    (le_iff.mp below).1.trans_lt (isFinite_iff.mp last).2⟩

theorem eq_of_rank_eq (same : rank x = rank y) (nonzero : rank x ≠ rank 0) : x = y := by
  rw [rank_zero] at nonzero
  have unpacked := eq_of_unpackedRank_eq same nonzero
  have bits := (UnpackedFloat.unpack_inj_of_valid x.toModel.valid y.toModel.valid).mp unpacked
  rw [← Float.toBits_inj]
  exact UInt64.toBitVec_inj.mp bits

end

end JourneyCost.Decimal
