import JourneyCost.Decimal.Binary
import Mathlib

/-!
# Floats with whole values

The whole value of a float determines the float, but for the sign of zero.  So two floats with whole
values are equal as numbers exactly if these values are.
-/

namespace JourneyCost.Decimal

/-- The numerator over `2 ^ 1074` of the number with a scale and a fraction. -/
def numerator (scale fraction : Nat) : Nat :=
  if scale = 0 then fraction else (2 ^ 52 + fraction) * 2 ^ (scale - 1)

theorem numerator_lt {scale more fraction other : Nat} (bound : fraction < 2 ^ 52)
    (less : scale < more) : numerator scale fraction < numerator more other := by
  have positive : more ≠ 0 := by omega
  have upper : numerator scale fraction < 2 ^ 52 * 2 ^ scale := by
    unfold numerator
    split
    · rename_i zero
      rwa [zero, pow_zero, mul_one]
    · rename_i nonzero
      obtain ⟨n, rfl⟩ := Nat.exists_eq_succ_of_ne_zero nonzero
      calc (2 ^ 52 + fraction) * 2 ^ n
          < (2 ^ 52 * 2) * 2 ^ n :=
            Nat.mul_lt_mul_of_pos_right (by omega) (Nat.two_pow_pos n)
        _ = 2 ^ 52 * 2 ^ (n + 1) := by rw [mul_assoc, ← pow_succ']
  calc numerator scale fraction
      < 2 ^ 52 * 2 ^ scale := upper
    _ ≤ 2 ^ 52 * 2 ^ (more - 1) :=
        Nat.mul_le_mul_left _ (Nat.pow_le_pow_right (by omega) (by omega))
    _ ≤ numerator more other := by
        rw [numerator, if_neg positive]
        exact Nat.mul_le_mul_right _ (Nat.le_add_right _ _)

theorem numerator_inj {scale more fraction other : Nat} (bound : fraction < 2 ^ 52)
    (otherBound : other < 2 ^ 52) (same : numerator scale fraction = numerator more other) :
    scale = more ∧ fraction = other := by
  rcases lt_trichotomy scale more with less | rfl | greater
  · exact absurd same (numerator_lt bound less).ne
  · refine ⟨rfl, ?_⟩
    unfold numerator at same
    split at same
    · exact same
    · have sums := Nat.eq_of_mul_eq_mul_right (Nat.two_pow_pos _) same
      omega
  · exact absurd same (numerator_lt otherBound greater).ne'

/-- The scale in the bits of a float. -/
def scaleOf (x : Float) : Nat := x.toBits.toNat / twoTo 52 % 2048

/-- The fraction in the bits of a float. -/
def fractionOf (x : Float) : Nat := x.toBits.toNat % twoTo 52

/-- Whether the sign is set in the bits of a float. -/
def signOf (x : Float) : Bool := x.toBits.toNat / twoTo 63 % 2 == 1

theorem fractionOf_lt (x : Float) : fractionOf x < 2 ^ 52 := Nat.mod_lt _ (Nat.two_pow_pos 52)

section

open Float.Model (Format UnpackedFloat)

theorem toNat_unpackExponent (x : Float) :
    (@UnpackedFloat.unpackExponent Format.binary64 x.toModel.toBits.toBitVec).toNat =
      scaleOf x := by
  rw [UnpackedFloat.unpackExponent_def, BitVec.extractLsb'_toNat, Nat.shiftRight_eq_div_pow]
  rfl

theorem toNat_unpackMantissa (x : Float) :
    (@UnpackedFloat.unpackMantissa Format.binary64 x.toModel.toBits.toBitVec).toNat =
      fractionOf x := by
  rw [UnpackedFloat.unpackMantissa_def, BitVec.extractLsb'_toNat]
  rfl

end

/-- The three parts of the bits determine a float. -/
theorem eq_of_parts {x y : Float} (sign : signOf x = signOf y) (scale : scaleOf x = scaleOf y)
    (fraction : fractionOf x = fractionOf y) : x = y := by
  rw [← Float.toBits_inj, ← UInt64.toNat_inj]
  have boundX := x.toBits.toNat_lt
  have boundY := y.toBits.toNat_lt
  have signs : x.toBits.toNat / 2 ^ 63 % 2 = y.toBits.toNat / 2 ^ 63 % 2 := by
    have digitX : x.toBits.toNat / 2 ^ 63 % 2 < 2 := Nat.mod_lt _ (by omega)
    have digitY : y.toBits.toNat / 2 ^ 63 % 2 < 2 := Nat.mod_lt _ (by omega)
    have ones := beq_eq_beq.mp sign
    simp only [twoTo, Nat.pow_eq] at ones
    omega
  simp only [scaleOf, fractionOf, twoTo, Nat.pow_eq] at scale fraction
  omega

/-- What a sign, a scale and a fraction stand for. -/
inductive HasParts (sign : Bool) (scale fraction : Nat) : Binary → Prop
  /-- The fraction counts the least units. -/
  | subnormal : scale = 0 → HasParts sign scale fraction (.finite sign fraction (-1074))
  /-- A leading digit stands before the fraction. -/
  | normal : scale ≠ 0 → scale ≠ 2047 →
    HasParts sign scale fraction (.finite sign (2 ^ 52 + fraction) ((scale : Int) - 1075))
  /-- The greatest scale is kept for what is infinite. -/
  | infinite : scale = 2047 → fraction = 0 → HasParts sign scale fraction (.infinite sign)
  /-- It is kept for what is not a number, too. -/
  | undefined : scale = 2047 → fraction ≠ 0 → HasParts sign scale fraction .undefined

theorem hasParts_ofFloat (x : Float) :
    HasParts (signOf x) (scaleOf x) (fractionOf x) (Binary.ofFloat x) := by
  have parts : Binary.ofFloat x =
      if scaleOf x == 2047 then if fractionOf x == 0 then .infinite (signOf x) else .undefined
      else if scaleOf x == 0 then .finite (signOf x) (fractionOf x) (-1074)
      else .finite (signOf x) (twoTo 52 + fractionOf x) ((scaleOf x : Int) - 1075) := rfl
  simp only [beq_iff_eq] at parts
  rw [parts]
  split
  · rename_i top
    split
    · rename_i none
      exact .infinite top none
    · rename_i some_
      exact .undefined top some_
  · rename_i bounded
    split
    · rename_i zero
      exact .subnormal zero
    · rename_i nonzero
      exact .normal nonzero bounded

theorem hasParts_of_eq {x : Float} {binary : Binary} (same : Binary.ofFloat x = binary) :
    HasParts (signOf x) (scaleOf x) (fractionOf x) binary :=
  same ▸ hasParts_ofFloat x

/-- A finite float stands for its numerator over `2 ^ 1074`. -/
theorem numerator_of_finite {x : Float} {negative : Bool} {mantissa : Nat} {exponent : Int}
    (finite : Binary.ofFloat x = .finite negative mantissa exponent) :
    negative = signOf x ∧ -1074 ≤ exponent ∧
      numerator (scaleOf x) (fractionOf x) = mantissa * 2 ^ (exponent + 1074).toNat := by
  cases hasParts_of_eq finite with
  | subnormal zero =>
      rw [numerator, if_pos zero]
      exact ⟨rfl, le_refl _, (mul_one _).symm⟩
  | normal nonzero bounded =>
      refine ⟨rfl, by omega, ?_⟩
      rw [numerator, if_neg nonzero]
      congr 2
      omega

theorem wholeValue?_of_finite {x : Float} {negative : Bool} {mantissa : Nat} {exponent : Int}
    (finite : Binary.ofFloat x = .finite negative mantissa exponent) :
    wholeValue? x =
      if mantissa * twoTo exponent.toNat % twoTo (-exponent).toNat == 0 then
        some (if negative then
            -((mantissa * twoTo exponent.toNat / twoTo (-exponent).toNat : Nat) : Int)
          else ((mantissa * twoTo exponent.toNat / twoTo (-exponent).toNat : Nat) : Int))
      else none := by
  rw [wholeValue?, finite]

/-- The numerator of a float with a whole value. -/
theorem numerator_of_wholeValue? {x : Float} {m : Int} (whole : wholeValue? x = some m) :
    numerator (scaleOf x) (fractionOf x) = m.natAbs * 2 ^ 1074 ∧
      m = if signOf x then -(m.natAbs : Int) else m.natAbs := by
  cases finite : Binary.ofFloat x with
  | undefined => simp [wholeValue?, finite] at whole
  | infinite negative => simp [wholeValue?, finite] at whole
  | finite negative mantissa exponent =>
      obtain ⟨rfl, least, value⟩ := numerator_of_finite finite
      rw [wholeValue?_of_finite finite] at whole
      split at whole
      · rename_i exact
        have divides := Nat.div_mul_cancel (Nat.dvd_of_mod_eq_zero (beq_iff_eq.mp exact))
        generalize mantissa * twoTo exponent.toNat / twoTo (-exponent).toNat = quotient at *
        obtain rfl := Option.some.inj whole
        have size : (if signOf x then -(quotient : Int) else quotient).natAbs = quotient := by
          split <;> simp
        rw [size, value]
        refine ⟨?_, rfl⟩
        have places : (exponent + 1074).toNat + (-exponent).toNat = exponent.toNat + 1074 := by
          omega
        refine Nat.eq_of_mul_eq_mul_right (Nat.two_pow_pos (-exponent).toNat) ?_
        calc mantissa * 2 ^ (exponent + 1074).toNat * 2 ^ (-exponent).toNat
            = mantissa * 2 ^ exponent.toNat * 2 ^ 1074 := by
              rw [mul_assoc, ← pow_add, places, pow_add, mul_assoc]
          _ = quotient * 2 ^ (-exponent).toNat * 2 ^ 1074 :=
              congrArg (· * 2 ^ 1074) divides.symm
          _ = quotient * 2 ^ 1074 * 2 ^ (-exponent).toNat := mul_right_comm _ _ _
      · cases whole

theorem wholeValue?_zero : wholeValue? 0 = some 0 := by decide +kernel

theorem wholeValue?_negZero : wholeValue? (-0) = some 0 := by decide +kernel

theorem wholeValue?_nan : wholeValue? Float.nan = none := by decide +kernel

/-- Floats that are equal as numbers have the same whole value, if any. -/
theorem wholeValue?_congr {x y : Float} (same : (x == y) = true) :
    wholeValue? x = wholeValue? y := by
  obtain ⟨-, -, rfl | ⟨rfl, rfl⟩ | ⟨rfl, rfl⟩⟩ := Float.beq_iff_ne_nan_and_eq.mp same
  · rfl
  · rw [wholeValue?_zero, wholeValue?_negZero]
  · rw [wholeValue?_zero, wholeValue?_negZero]

theorem eq_of_wholeValue?_ne_zero {x y : Float} {m : Int} (wholeX : wholeValue? x = some m)
    (wholeY : wholeValue? y = some m) (nonzero : m ≠ 0) : x = y := by
  obtain ⟨sizeX, signX⟩ := numerator_of_wholeValue? wholeX
  obtain ⟨sizeY, signY⟩ := numerator_of_wholeValue? wholeY
  obtain ⟨scales, fractions⟩ :=
    numerator_inj (fractionOf_lt x) (fractionOf_lt y) (sizeX.trans sizeY.symm)
  refine eq_of_parts ?_ scales fractions
  cases negX : signOf x <;> cases negY : signOf y <;> simp [negX, negY] at signX signY ⊢ <;> omega

theorem eq_zero_of_wholeValue? {x : Float} (whole : wholeValue? x = some 0) : x = 0 ∨ x = -0 := by
  have size : numerator (scaleOf x) (fractionOf x) = numerator 0 0 := by
    rw [(numerator_of_wholeValue? whole).1, Int.natAbs_zero, Nat.zero_mul]
    rfl
  obtain ⟨scale, fraction⟩ := numerator_inj (fractionOf_lt x) (Nat.two_pow_pos 52) size
  cases sign : signOf x with
  | false => exact .inl (eq_of_parts (y := 0) (by rw [sign]; decide +kernel)
      (by rw [scale]; decide +kernel) (by rw [fraction]; decide +kernel))
  | true => exact .inr (eq_of_parts (y := -0) (by rw [sign]; decide +kernel)
      (by rw [scale]; decide +kernel) (by rw [fraction]; decide +kernel))

/-- Floats with the same whole value are equal as numbers. -/
theorem beq_of_wholeValue? {x y : Float} {m : Int} (wholeX : wholeValue? x = some m)
    (wholeY : wholeValue? y = some m) : (x == y) = true := by
  by_cases zero : m = 0
  · subst zero
    rcases eq_zero_of_wholeValue? wholeX with rfl | rfl <;>
      rcases eq_zero_of_wholeValue? wholeY with rfl | rfl <;> decide +kernel
  · obtain rfl := eq_of_wholeValue?_ne_zero wholeX wholeY zero
    rw [Float.beq_self_iff]
    rintro rfl
    rw [wholeValue?_nan] at wholeX
    cases wholeX

end JourneyCost.Decimal
