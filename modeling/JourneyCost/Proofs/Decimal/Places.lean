import JourneyCost.Proofs.Decimal.Finite

/-!
# Rounding to places

A positive number is rounded to zero exactly if it is at most half of the last place.  For two
places these are the floats below the one for half a hundredth, which is a little above it.
-/

namespace JourneyCost.Decimal

open Float.Model (Format UnpackedFloat)
open Float.Model.UnpackedFloat

section

variable {x : Float} {negative : Bool} {mantissa : Nat} {exponent : Int}

theorem ofBitVec_unpackSign (x : Float) :
    Sign.ofBitVec (@unpackSign Format.binary64 x.toModel.toBits.toBitVec) =
      if signOf x then .negative else .positive := by
  have digit : (@unpackSign Format.binary64 x.toModel.toBits.toBitVec).toNat =
      x.toBits.toNat / 2 ^ 63 % 2 := by
    rw [UnpackedFloat.unpackSign_def, BitVec.extractLsb'_toNat, Nat.shiftRight_eq_div_pow]
    rfl
  have clear : @unpackSign Format.binary64 x.toModel.toBits.toBitVec = 0#1 ↔
      x.toBits.toNat / 2 ^ 63 % 2 = 0 := by
    rw [← BitVec.toNat_inj, digit]
    rfl
  have set : signOf x = (x.toBits.toNat / 2 ^ 63 % 2 == 1) := rfl
  rw [Sign.ofBitVec, set]
  rcases Nat.mod_two_eq_zero_or_one (x.toBits.toNat / 2 ^ 63) with zero | one
  · rw [if_pos (clear.mpr zero), zero]
    rfl
  · rw [if_neg fun none => absurd (one.symm.trans (clear.mp none)) Nat.one_ne_zero, one]
    rfl

theorem unpackedRank_finite (positive : 0 < mantissa) :
    unpackedRank (.finite (if negative then .negative else .positive) mantissa exponent positive) =
      if negative then .mk (-1) (-exponent) (-mantissa) else .mk 1 exponent mantissa := by
  cases negative <;> rfl

theorem toNat_one_append (digits : BitVec 52) :
    (1#1 ++ digits).toNat = 2 ^ 52 + digits.toNat := by
  rw [BitVec.toNat_append, BitVec.toNat_ofNat, Nat.shiftLeft_eq]
  exact (Nat.two_pow_add_eq_or_of_lt digits.isLt 1).symm

/-- The rank of a finite float is told by its parts. -/
theorem rank_of_finite (finite : Binary.ofFloat x = .finite negative mantissa exponent) :
    rank x = if mantissa = 0 then .mk 0 0 0
      else if negative then .mk (-1) (-exponent) (-mantissa) else .mk 1 exponent mantissa := by
  have bounded : scaleOf x ≠ 2047 :=
    isFinite_iff_scaleOf.mp (isFinite_iff_ofFloat.mpr ⟨_, _, _, finite⟩)
  have special : @unpackExponent Format.binary64 x.toModel.toBits.toBitVec ≠ -1#_ := by
    rw [Ne, ← BitVec.toNat_inj, toNat_unpackExponent]
    exact bounded
  have subnormal : @unpackExponent Format.binary64 x.toModel.toBits.toBitVec = 0#_ ↔
      scaleOf x = 0 := by
    rw [← BitVec.toNat_inj, toNat_unpackExponent]
    rfl
  have empty : @unpackMantissa Format.binary64 x.toModel.toBits.toBitVec = 0#_ ↔
      fractionOf x = 0 := by
    rw [← BitVec.toNat_inj, toNat_unpackMantissa]
    rfl
  have sign := ofBitVec_unpackSign x
  unfold rank Float.Model.unpack unpack
  simp only [if_neg special, subnormal, empty, sign, toNat_unpackExponent]
  cases hasParts_of_eq finite with
  | subnormal zero =>
      rw [if_pos zero]
      split
      · rfl
      · rw [unpackedRank_finite, toNat_unpackMantissa, zero]
        rfl
  | normal nonzero _ =>
      have filled : 2 ^ 52 + fractionOf x ≠ 0 :=
        (Nat.add_pos_left (Nat.two_pow_pos 52) _).ne'
      rw [if_neg nonzero, unpackedRank_finite, if_neg filled, toNat_one_append,
        toNat_unpackMantissa]
      rfl

end

section

variable {x : Float} {negative : Bool} {mantissa : Nat} {exponent : Int}

theorem pos_iff_of_finite (finite : Binary.ofFloat x = .finite negative mantissa exponent) :
    0 < x ↔ negative = false ∧ 0 < mantissa := by
  have defined := ne_nan_of_isFinite (isFinite_iff_ofFloat.mpr ⟨_, _, _, finite⟩)
  rw [lt_iff, rank_zero, rank_of_finite finite, and_iff_left defined]
  rcases Nat.eq_zero_or_pos mantissa with rfl | positive
  · simp
  · rw [if_neg positive.ne']
    cases negative <;> simp [positive]

/-- A float whose bits are those of a count is positive. -/
theorem pos_of_toBits (finite : x.isFinite = true) (nonzero : 0 < x.toBits.toNat)
    (clear : x.toBits.toNat < 2 ^ 63) : 0 < x := by
  obtain ⟨negative, mantissa, exponent, parts⟩ := isFinite_iff_ofFloat.mp finite
  have bits := toBits_of_finite parts
  have unsigned : negative = false := by
    cases negative with
    | false => rfl
    | true =>
        rw [if_pos rfl, twoTo, Nat.pow_eq] at bits
        omega
  refine (pos_iff_of_finite parts).mpr ⟨unsigned, Nat.pos_of_ne_zero fun none => ?_⟩
  rw [unsigned, if_neg Bool.false_ne_true, exponent_of_zero parts none, none] at bits
  exact nonzero.ne' bits

end

/-- A quotient is rounded to nothing up to a half. -/
theorem roundDiv_eq_zero_iff {num den : Nat} (positive : 0 < den) :
    roundDiv num den = 0 ↔ 2 * num ≤ den := by
  rw [roundDiv]
  rcases Nat.lt_or_ge num den with less | more
  · rw [Nat.div_eq_of_lt less, Nat.mod_eq_of_lt less]
    split
    · omega
    · split
      · omega
      · simp
        omega
  · have quotient : 0 < num / den := Nat.div_pos more positive
    have double : ¬ 2 * num ≤ den := by omega
    simp only [double, iff_false]
    split
    · omega
    · split
      · omega
      · split <;> omega

/-- Positive quotients far from the least floats are not rounded to zero. -/
theorem nearestBits_pos {num den : Nat} (positive : 0 < num) (positiveDen : 0 < den)
    (coarse : den ≤ twoTo 1000) : 0 < nearestBits num den := by
  obtain ⟨leading, low, high, unit⟩ := exists_leading positive positiveDen
  obtain ⟨a, b, positiveB, counted, bits⟩ := exists_count positive positiveDen
  have positiveRat : (0 : ℚ) < den := Nat.cast_pos.mpr positiveDen
  have large : (2 : ℚ) ^ (-1000 : ℤ) ≤ num / den := by
    rw [zpow_le_div_iff positiveDen]
    exact (Nat.mul_one den).le.trans (coarse.trans (Nat.le_mul_of_pos_left _ positive))
  have far : -1000 < leading + 1 :=
    (zpow_lt_zpow_iff_right₀ (one_lt_two : (1 : ℚ) < 2)).mp (large.trans_lt high)
  have units : 1 ≤ (unitExponent num den + 1074).toNat := by omega
  have count := Nat.mul_le_mul_right (twoTo 52) units
  have powers := twoTo_pos 52
  rw [bits, lt_min_iff]
  exact ⟨by omega, by omega⟩

section

variable {x : Float} {mantissa : Nat} {exponent : Int}

theorem roundTo_of_finite (places : Nat)
    (finite : Binary.ofFloat x = .finite false mantissa exponent) :
    roundTo places x = nearest false
      (roundDiv (mantissa * twoTo exponent.toNat * tenTo places) (twoTo (-exponent).toNat))
      (tenTo places) := by
  rw [roundTo, finite]

/-- A number is rounded to something positive if it is more than half of the last place. -/
theorem pos_roundTo {places : Nat} (few : tenTo places ≤ twoTo 1000)
    (finite : Binary.ofFloat x = .finite false mantissa exponent)
    (more : twoTo (-exponent).toNat < 2 * (mantissa * twoTo exponent.toNat * tenTo places)) :
    0 < roundTo places x := by
  have count : 0 < roundDiv (mantissa * twoTo exponent.toNat * tenTo places)
      (twoTo (-exponent).toNat) :=
    Nat.pos_of_ne_zero fun none =>
      absurd ((roundDiv_eq_zero_iff (twoTo_pos _)).mp none) (Nat.not_le.mpr more)
  have filled := nearestBits_pos count (Nat.pow_pos (by decide)) few
  have bound := nearestBits_le (roundDiv (mantissa * twoTo exponent.toNat * tenTo places)
    (twoTo (-exponent).toNat)) (tenTo places)
  have whole : (roundTo places x).isFinite = true :=
    (isFinite_roundTo places x).trans (isFinite_iff_ofFloat.mpr ⟨_, _, _, finite⟩)
  rw [roundTo_of_finite places finite] at whole ⊢
  refine pos_of_toBits whole ?_ ?_ <;>
    rw [toBits_nearest, if_neg Bool.false_ne_true, Nat.zero_add]
  · exact filled
  · exact bound.trans_lt (by decide)

/-- A number is rounded to zero up to half of the last place. -/
theorem roundTo_eq_zero {places : Nat}
    (finite : Binary.ofFloat x = .finite false mantissa exponent)
    (less : 2 * (mantissa * twoTo exponent.toNat * tenTo places) ≤ twoTo (-exponent).toNat) :
    roundTo places x = 0 := by
  rw [roundTo_of_finite places finite, (roundDiv_eq_zero_iff (twoTo_pos _)).mpr less, nearest]
  exact (by decide +kernel : Float.ofBits (UInt64.ofNat 0) = 0)

end

section

variable {x : Float}

theorem ofFloat_halfHundredth :
    Binary.ofFloat 0.005 = .finite false 5764607523034235 (-60) := by decide +kernel

/-- The float for half a hundredth is the least one above half a hundredth. -/
theorem halfHundredth_le_iff {mantissa : Nat} {exponent : Int}
    (finite : Binary.ofFloat x = .finite false mantissa exponent) :
    0.005 ≤ x ↔ twoTo (-exponent).toNat < 2 * (mantissa * twoTo exponent.toNat * tenTo 2) := by
  have defined := ne_nan_of_isFinite (isFinite_iff_ofFloat.mpr ⟨_, _, _, finite⟩)
  have hundred : tenTo 2 = 100 := rfl
  rw [le_iff, and_iff_left defined, rank_of_finite ofFloat_halfHundredth, rank_of_finite finite,
    hundred]
  rcases Nat.eq_zero_or_pos mantissa with rfl | positive
  · simp
  have float := isFloat_of_finite finite positive
  have small := float.mantissa_lt
  rw [if_neg positive.ne']
  simp only [OfNat.ofNat_ne_zero, Bool.false_eq_true, if_false, Rank.mk_le_mk, lt_irrefl, true_and,
    false_or]
  -- Other exponents are far from the bound; at the exponent of the bound mantissas are compared.
  rcases lt_trichotomy exponent (-60) with less | rfl | more
  · have one : twoTo exponent.toNat = 1 := by
      rw [Int.toNat_of_nonpos (by omega)]
      rfl
    have powers : twoTo 61 ≤ twoTo (-exponent).toNat := twoTo_le_twoTo (by omega)
    have far : twoTo 61 = 2 ^ 61 := rfl
    rw [one]
    omega
  · have units : twoTo (- -60 : ℤ).toNat = 2 ^ 60 := rfl
    have one : twoTo (-60 : ℤ).toNat = 1 := rfl
    rw [units, one]
    omega
  · have full : 2 ^ 52 ≤ mantissa := by
      rcases float.full with least | ⟨-, full⟩
      · omega
      · exact full
    have powers : twoTo (-exponent).toNat ≤ twoTo 59 := twoTo_le_twoTo (by omega)
    have near : twoTo 59 = 2 ^ 59 := rfl
    have product := Nat.le_mul_of_pos_right mantissa (twoTo_pos exponent.toNat)
    omega

/-- The positive numbers that are rounded to zero are those below half a hundredth. -/
theorem pos_roundTo_two_iff (finite : x.isFinite = true) (positive : 0 < x) :
    0 < roundTo 2 x ↔ 0.005 ≤ x := by
  obtain ⟨negative, mantissa, exponent, parts⟩ := isFinite_iff_ofFloat.mp finite
  obtain ⟨rfl, -⟩ := (pos_iff_of_finite parts).mp positive
  rw [halfHundredth_le_iff parts]
  have few : tenTo 2 ≤ twoTo 1000 :=
    (by decide : tenTo 2 ≤ twoTo 7).trans (twoTo_le_twoTo (by decide))
  refine ⟨fun above => Nat.lt_of_not_le fun less => ?_, pos_roundTo few parts⟩
  rw [roundTo_eq_zero parts less, lt_iff] at above
  exact lt_irrefl _ above.1

theorem roundTo_two_of_lt (finite : x.isFinite = true) (positive : 0 < x) (small : ¬ 0.005 ≤ x) :
    roundTo 2 x = 0 := by
  obtain ⟨negative, mantissa, exponent, parts⟩ := isFinite_iff_ofFloat.mp finite
  obtain ⟨rfl, -⟩ := (pos_iff_of_finite parts).mp positive
  rw [halfHundredth_le_iff parts, Nat.not_lt] at small
  exact roundTo_eq_zero parts small

/-- Above zero only infinity and what is not a number are not finite. -/
theorem eq_infinity_or_nan (special : x.isFinite = false) (above : ¬ x ≤ 0) :
    x = infinity ∨ x = Float.nan := by
  cases parts : Binary.ofFloat x with
  | finite negative mantissa exponent =>
      rw [isFinite_iff_ofFloat.mpr ⟨_, _, _, parts⟩] at special
      cases special
  | infinite negative =>
      obtain rfl := eq_infinity_of_infinite parts
      cases negative with
      | false => exact .inl rfl
      | true => exact absurd (by decide +kernel : -infinity ≤ 0) above
  | undefined =>
      have nan : undefinedFloat = Float.nan := by decide +kernel
      exact .inr ((eq_undefinedFloat_of_undefined parts).trans nan)

/-- What is not finite is not rounded. -/
theorem roundTo_of_not_isFinite (places : Nat) (special : x.isFinite = false) :
    roundTo places x = x := by
  rw [roundTo]
  split
  · rename_i parts
    rw [isFinite_iff_ofFloat.mpr ⟨_, _, _, parts⟩] at special
    cases special
  · rfl

end

end JourneyCost.Decimal
