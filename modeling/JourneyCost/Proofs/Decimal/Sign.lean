import JourneyCost.Proofs.Decimal.Order

/-!
# Signs of floats

Sums and quotients of floats that are not below zero are not below zero, however they are rounded.
A change of sign rounds nothing, so a difference has the same size the other way round.
-/

namespace JourneyCost.Decimal

open Float.Model (Format UnpackedFloat)
open Float.Model.UnpackedFloat

/-- Zero of either sign, or a number with a positive sign. -/
def IsNonnegative : UnpackedFloat → Prop
  | .notANumber => False
  | .zero _ => True
  | .infinity sign | .finite sign .. => sign = .positive

theorem zero_le_iff {x : Float} : 0 ≤ x ↔ IsNonnegative x.toModel.unpack := by
  rw [le_iff, rank_zero, Ne, ← unpack_eq_notANumber_iff, rank]
  rcases x.toModel.unpack with ⟨_ | _⟩ | _ | _ | ⟨_ | _, m, e, pos⟩ <;>
    simp [unpackedRank, IsNonnegative]

section

variable {spec : Format}

/-- Parts with a positive sign stand for something undefined or not below zero. -/
theorem isNonnegative_unpack_packComponents (exponent : BitVec spec.exponentBits)
    (mantissa : BitVec spec.mantissaBitsWithoutImplicit)
    (defined : exponent = -1#_ → mantissa = 0#_) :
    IsNonnegative (unpack spec (packComponents spec .positive exponent mantissa)) := by
  unfold unpack
  simp only [unpackMantissa_packComponents, unpackExponent_packComponents,
    unpackSign_packComponents, Sign.ofBitVec_toBitVec]
  split
  · rename_i special
    rw [if_pos (defined special)]
    rfl
  · split
    · split
      · trivial
      · rfl
    · rfl

theorem isNonnegative_unpack_pack {u : UnpackedFloat} (nonnegative : IsNonnegative u) :
    IsNonnegative (unpack spec (pack spec u)) := by
  cases u with
  | notANumber => exact nonnegative.elim
  | zero sign =>
      rw [pack, unpack_packedZero]
      trivial
  | infinity sign =>
      obtain rfl : sign = .positive := nonnegative
      exact isNonnegative_unpack_packComponents _ _ fun _ => rfl
  | finite sign mantissa exponent pos =>
      obtain rfl : sign = .positive := nonnegative
      rw [pack]
      split
      · exact isNonnegative_unpack_packComponents _ _ fun _ => rfl
      · rename_i small
        split
        · refine isNonnegative_unpack_packComponents _ _ fun special => ?_
          have filled := congrArg BitVec.toNat special
          rw [BitVec.neg_one_eq_allOnes, BitVec.toNat_allOnes, BitVec.toNat_ofNat,
            Nat.mod_eq_of_lt (by omega)] at filled
          omega
        · refine isNonnegative_unpack_packComponents _ _ fun special => ?_
          exact absurd (BitVec.zero_eq_neg_one_iff.mp special) (Nat.ne_of_gt spec.he)

end

theorem isNonnegative_roundWithAccuracy (spec : Format) (mantissa : ℕ) (exponent : ℤ)
    (accuracy : Accuracy) :
    IsNonnegative (roundWithAccuracy spec .positive mantissa exponent accuracy) := by
  unfold roundWithAccuracy
  simp only
  split
  · trivial
  · rfl

theorem isNonnegative_normalize (spec : Format) {mantissa : ℤ} (exponent : ℤ) (sign : Sign)
    (nonnegative : 0 ≤ mantissa) :
    IsNonnegative (UnpackedFloat.normalize spec mantissa exponent sign) := by
  unfold UnpackedFloat.normalize
  split
  · rename_i below
    exact absurd (compare_lt_iff_lt.mp below) (not_lt.mpr nonnegative)
  · trivial
  · exact isNonnegative_roundWithAccuracy _ _ _ _

theorem isNonnegative_add (spec : Format) {a b : UnpackedFloat} (first : IsNonnegative a)
    (second : IsNonnegative b) : IsNonnegative (UnpackedFloat.add spec a b) := by
  cases a with
  | notANumber => exact first.elim
  | infinity sign =>
      obtain rfl : sign = .positive := first
      cases b with
      | notANumber => exact second.elim
      | infinity sign =>
          obtain rfl : sign = .positive := second
          rfl
      | zero | finite => rfl
  | zero sign =>
      cases b with
      | notANumber => exact second.elim
      | infinity | finite => exact second
      | zero other => cases sign <;> cases other <;> trivial
  | finite sign mantissa exponent pos =>
      obtain rfl : sign = .positive := first
      cases b with
      | notANumber => exact second.elim
      | infinity => exact second
      | zero => rfl
      | finite sign mantissa exponent pos =>
          obtain rfl : sign = .positive := second
          exact isNonnegative_normalize _ _ _
            (Int.add_nonneg (Int.natCast_nonneg _) (Int.natCast_nonneg _))

theorem isNonnegative_div (spec : Format) {a b : UnpackedFloat} (first : IsNonnegative a)
    (positive : unpackedRank (.zero .positive) < unpackedRank b) (finite : b.isFinite = true) :
    IsNonnegative (UnpackedFloat.div spec a b) := by
  cases b with
  | notANumber | infinity => cases finite
  | zero => exact absurd positive (lt_irrefl _)
  | finite sign mantissa exponent pos =>
      cases sign with
      | negative => simp [unpackedRank] at positive
      | positive =>
          cases a with
          | notANumber => exact first.elim
          | zero => trivial
          | infinity sign =>
              obtain rfl : sign = .positive := first
              rfl
          | finite sign =>
              obtain rfl : sign = .positive := first
              exact isNonnegative_roundWithAccuracy _ _ _ _

section

variable {x y : Float}

theorem add_nonneg (first : 0 ≤ x) (second : 0 ≤ y) : 0 ≤ x + y := by
  rw [zero_le_iff] at first second ⊢
  exact isNonnegative_unpack_pack (isNonnegative_add Format.binary64 first second)

/-- The divisor is finite, for an infinity divided by an infinity is undefined. -/
theorem div_nonneg (first : 0 ≤ x) (positive : 0 < y) (finite : y.isFinite = true) :
    0 ≤ x / y := by
  rw [zero_le_iff] at first ⊢
  exact isNonnegative_unpack_pack
    (isNonnegative_div Format.binary64 first (lt_iff.mp positive).1 finite)

end

/-- A float with another sign. -/
def withSign (sign : Sign) : UnpackedFloat → UnpackedFloat
  | .notANumber => .notANumber
  | .infinity _ => .infinity sign
  | .zero _ => .zero sign
  | .finite _ mantissa exponent pos => .finite sign mantissa exponent pos

theorem abs_eq_withSign (u : UnpackedFloat) : u.abs = withSign .positive u := by cases u <;> rfl

theorem exists_neg_eq_withSign (u : UnpackedFloat) : ∃ sign, u.neg = withSign sign u := by
  cases u with
  | notANumber => exact ⟨.positive, rfl⟩
  | infinity sign | zero sign | finite sign => exact ⟨-sign, rfl⟩

section

variable {spec : Format}

theorem unpack_packComponents (sign : Sign) (bits : BitVec spec.numBits) :
    unpack spec (packComponents spec sign (unpackExponent bits) (unpackMantissa bits)) =
      withSign sign (unpack spec bits) := by
  unfold unpack
  simp only [unpackMantissa_packComponents, unpackExponent_packComponents,
    unpackSign_packComponents, Sign.ofBitVec_toBitVec]
  split
  · split <;> rfl
  · split
    · split <;> rfl
    · rfl

theorem unpack_of_isNaNBits {bits : BitVec spec.numBits} (undefined : isNaNBits bits = true) :
    unpack spec bits = .notANumber := by
  obtain ⟨special, nonzero⟩ := of_decide_eq_true undefined
  rw [unpack, if_pos special, if_neg nonzero]

/-- Packing rounds nothing if only the sign was changed. -/
theorem unpack_pack_withSign (sign : Sign) (bits : BitVec spec.numBits)
    (wide : 2 ≤ spec.exponentBits) :
    unpack spec (pack spec (withSign sign (unpack spec bits))) =
      withSign sign (unpack spec bits) := by
  rw [← unpack_packComponents, pack_unpack _ wide]
  split
  · rename_i undefined
    rw [unpack_packedNaN, unpack_of_isNaNBits undefined]
  · rfl

end

section

variable {x bound : Float}

theorem unpack_abs : x.abs.toModel.unpack = x.toModel.unpack.abs := by
  have same := @unpack_pack_withSign Format.binary64 .positive x.toModel.toBits.toBitVec (by decide)
  rw [← abs_eq_withSign] at same
  exact same

theorem unpack_neg : (-x).toModel.unpack = x.toModel.unpack.neg := by
  obtain ⟨sign, changed⟩ := exists_neg_eq_withSign x.toModel.unpack
  have same := @unpack_pack_withSign Format.binary64 sign x.toModel.toBits.toBitVec (by decide)
  exact (congrArg (fun u => unpack Format.binary64 (pack Format.binary64 u)) changed).trans
    (same.trans changed.symm)

/-- A float lies between a bound and its negation if it is no larger than the bound. -/
theorem abs_le_iff : x.abs ≤ bound ↔ -bound ≤ x ∧ x ≤ bound := by
  rw [le_iff, le_iff, le_iff, Ne, Ne, ← unpack_eq_notANumber_iff, ← unpack_eq_notANumber_iff]
  simp only [rank, unpack_abs, unpack_neg]
  rcases x.toModel.unpack with ⟨_ | _⟩ | _ | _ | ⟨_ | _, m, e, pos⟩ <;>
    rcases bound.toModel.unpack with ⟨_ | _⟩ | _ | _ | ⟨_ | _, n, f, pos'⟩ <;>
    simp [UnpackedFloat.abs, UnpackedFloat.neg, unpackedRank]
  omega

end

section

variable {spec : Format} {sign : Sign}

theorem withSign_roundWithAccuracy (other : Sign) (mantissa : ℕ) (exponent : ℤ)
    (accuracy : Accuracy) :
    withSign sign (roundWithAccuracy spec other mantissa exponent accuracy) =
      roundWithAccuracy spec sign mantissa exponent accuracy := by
  unfold roundWithAccuracy
  simp only
  split <;> rfl

theorem withSign_normalize_neg (mantissa exponent : ℤ) (zeroSign : Sign) :
    withSign sign (UnpackedFloat.normalize spec (-mantissa) exponent zeroSign) =
      withSign sign (UnpackedFloat.normalize spec mantissa exponent zeroSign) := by
  rcases lt_trichotomy mantissa 0 with below | rfl | above
  · have negated : 0 < -mantissa := neg_pos.mpr below
    simp only [UnpackedFloat.normalize, compare_gt_iff_gt.mpr negated, compare_lt_iff_lt.mpr below,
      UnpackedFloat.round, withSign_roundWithAccuracy]
  · rfl
  · have negated : -mantissa < 0 := neg_neg_of_pos above
    simp only [UnpackedFloat.normalize, compare_lt_iff_lt.mpr negated, compare_gt_iff_gt.mpr above,
      UnpackedFloat.round, withSign_roundWithAccuracy, neg_neg]

/-- A difference is as large as the one the other way round, sign apart. -/
theorem withSign_sub_comm (a b : UnpackedFloat) :
    withSign sign (UnpackedFloat.sub spec a b) = withSign sign (UnpackedFloat.sub spec b a) := by
  rcases a with ⟨_ | _⟩ | _ | ⟨_ | _⟩ | ⟨s, m, e, pos⟩ <;>
    rcases b with ⟨_ | _⟩ | _ | ⟨_ | _⟩ | ⟨t, n, f, pos'⟩ <;> try rfl
  simp only [UnpackedFloat.sub]
  rw [min_comm f e, ← withSign_normalize_neg, neg_sub]

theorem withSign_unpack_packComponents (other : Sign) (exponent : BitVec spec.exponentBits)
    (mantissa : BitVec spec.mantissaBitsWithoutImplicit) :
    withSign sign (unpack spec (packComponents spec other exponent mantissa)) =
      unpack spec (packComponents spec sign exponent mantissa) := by
  rw [← unpack_packComponents, unpackExponent_packComponents, unpackMantissa_packComponents]

theorem withSign_unpack_pack (u : UnpackedFloat) :
    withSign sign (unpack spec (pack spec u)) = unpack spec (pack spec (withSign sign u)) := by
  cases u with
  | notANumber =>
      rw [pack, unpack_packedNaN]
      exact unpack_packedNaN.symm
  | infinity other | zero other => exact withSign_unpack_packComponents other _ _
  | finite other mantissa exponent pos =>
      have signed : withSign sign (.finite other mantissa exponent pos) =
          .finite sign mantissa exponent pos := rfl
      rw [signed, pack, pack]
      split
      · exact withSign_unpack_packComponents other _ _
      · split <;> exact withSign_unpack_packComponents other _ _

/-- How far two floats are apart does not depend on their order. -/
theorem abs_sub_comm (x y : Float) : (x - y).abs = (y - x).abs := by
  have size (u : UnpackedFloat) : (unpack Format.binary64 (pack Format.binary64 u)).abs =
      unpack Format.binary64 (pack Format.binary64 (withSign .positive u)) := by
    rw [abs_eq_withSign, withSign_unpack_pack]
  have unpacked : withSign .positive
        (UnpackedFloat.sub Format.binary64 x.toModel.unpack y.toModel.unpack) =
      withSign .positive
        (UnpackedFloat.sub Format.binary64 y.toModel.unpack x.toModel.unpack) :=
    withSign_sub_comm _ _
  have same := congrArg (fun u => unpack Format.binary64 (pack Format.binary64 u)) unpacked
  simp only [← size] at same
  exact congrArg (fun u => Float.ofModel (Float.Model.pack u)) same

end

end JourneyCost.Decimal
