import JourneyCost.Decimal.Binary
import Mathlib

/-!
# Numbers that round to a float

A positive quotient is counted in a unit of which it has 53 binary digits, fewer near zero, and
rounded to a whole count.  So every number that is nearest to a float is rounded to its bits.
-/

namespace JourneyCost.Decimal

/-- A quotient is rounded to a count from which it is at most a half away; just a half only if the
count is even. -/
theorem roundDiv_eq {num den count : Nat} (positive : 0 < den)
    (low : (count : ℚ) - 1 / 2 ≤ num / den) (high : (num : ℚ) / den ≤ count + 1 / 2)
    (tie : (num : ℚ) / den = count - 1 / 2 ∨ (num : ℚ) / den = count + 1 / 2 → Even count) :
    roundDiv num den = count := by
  have positiveRat : (0 : ℚ) < den := Nat.cast_pos.mpr positive
  have lowNat : 2 * count * den ≤ 2 * num + den := by
    rw [le_div_iff₀ positiveRat] at low
    have : (2 * count * den : ℚ) ≤ 2 * num + den := by linarith
    exact_mod_cast this
  have highNat : 2 * num ≤ 2 * count * den + den := by
    rw [div_le_iff₀ positiveRat] at high
    have : (2 * num : ℚ) ≤ 2 * count * den + den := by linarith
    exact_mod_cast this
  have tieLow : 2 * num + den = 2 * count * den → Even count := by
    intro same
    refine tie (.inl ((div_eq_iff positiveRat.ne').mpr ?_))
    have : (2 * num + den : ℚ) = 2 * count * den := by exact_mod_cast same
    linarith
  have tieHigh : 2 * num = 2 * count * den + den → Even count := by
    intro same
    refine tie (.inr ((div_eq_iff positiveRat.ne').mpr ?_))
    have : (2 * num : ℚ) = 2 * count * den + den := by exact_mod_cast same
    linarith
  have division := Nat.div_add_mod num den
  have remainder := Nat.mod_lt num positive
  rw [roundDiv]
  set whole := num / den
  set rest := num % den
  rw [← division] at lowNat highNat tieLow tieHigh
  -- The count is one of the two whole numbers next to the quotient.
  obtain same | same : count = whole ∨ count = whole + 1 := by
    rcases lt_trichotomy count whole with less | same | more
    · have := Nat.mul_le_mul_left den less
      nlinarith
    · exact .inl same
    · rcases Nat.eq_or_lt_of_le more with next | far
      · exact .inr next.symm
      · have := Nat.mul_le_mul_left den far
        nlinarith
  · subst same
    have half : 2 * rest ≤ den := by nlinarith
    rcases Nat.lt_or_eq_of_le half with less | same
    · simp [less]
    · have even : Even whole := tieHigh (by rw [← same]; ring)
      simp [same, Nat.even_iff.mp even]
  · subst same
    have half : den ≤ 2 * rest := by nlinarith
    rcases Nat.lt_or_eq_of_le half with less | same
    · simp [less, less.le, Nat.not_lt.mpr]
    · have even : Even (whole + 1) := tieLow (by rw [same]; ring)
      have odd : whole % 2 = 1 := by
        have := Nat.even_iff.mp even
        omega
      simp [← same, odd]

section

variable {num den : Nat}

theorem cast_twoTo (exponent : Nat) : ((twoTo exponent : ℕ) : ℚ) = 2 ^ exponent := by
  simp [twoTo]

theorem pow_toNat {base : ℚ} (nonzero : base ≠ 0) (exponent : ℤ) :
    base ^ exponent.toNat = base ^ exponent * base ^ (-exponent).toNat := by
  rw [← zpow_natCast, ← zpow_natCast, ← zpow_add₀ nonzero]
  congr 1
  omega

theorem zpow_le_div_iff (positive : 0 < den) (exponent : ℤ) :
    (2 : ℚ) ^ exponent ≤ num / den ↔
      den * twoTo exponent.toNat ≤ num * twoTo (-exponent).toNat := by
  have positiveRat : (0 : ℚ) < den := Nat.cast_pos.mpr positive
  have shift : (0 : ℚ) < 2 ^ (-exponent).toNat := by positivity
  rw [le_div_iff₀ positiveRat, ← mul_le_mul_iff_left₀ shift, mul_right_comm,
    ← pow_toNat two_ne_zero, mul_comm, ← cast_twoTo, ← cast_twoTo]
  norm_cast

/-- The power of two that a quotient reaches is told by its numerator and denominator. -/
theorem exists_leading (positive : 0 < num) (positiveDen : 0 < den) :
    ∃ leading : ℤ, (2 : ℚ) ^ leading ≤ num / den ∧ (num : ℚ) / den < 2 ^ (leading + 1) ∧
      unitExponent num den = max (leading - 52) (-1074) := by
  have positiveRat : (0 : ℚ) < den := Nat.cast_pos.mpr positiveDen
  have reached : (if 0 ≤ (num.log2 : ℤ) - den.log2 then
        decide (den * twoTo ((num.log2 : ℤ) - den.log2).toNat ≤ num)
      else decide (den ≤ num * twoTo (-((num.log2 : ℤ) - den.log2)).toNat)) =
      decide ((2 : ℚ) ^ ((num.log2 : ℤ) - den.log2) ≤ num / den) := by
    have none : twoTo 0 = 1 := rfl
    split
    · have whole : (-((num.log2 : ℤ) - den.log2)).toNat = 0 := by omega
      rw [decide_eq_decide, zpow_le_div_iff positiveDen, whole, none, mul_one]
    · have whole : ((num.log2 : ℤ) - den.log2).toNat = 0 := by omega
      rw [decide_eq_decide, zpow_le_div_iff positiveDen, whole, none, mul_one]
  rw [unitExponent, reached]
  by_cases here : (2 : ℚ) ^ ((num.log2 : ℤ) - den.log2) ≤ num / den
  · refine ⟨(num.log2 : ℤ) - den.log2, here, ?_, by simp [here]⟩
    have upper : (num : ℚ) < 2 ^ (num.log2 + 1) := by exact_mod_cast Nat.lt_log2_self
    have lower : (2 : ℚ) ^ den.log2 ≤ den := by exact_mod_cast Nat.log2_self_le positiveDen.ne'
    calc (num : ℚ) / den
        < 2 ^ (num.log2 + 1) / den := div_lt_div_of_pos_right upper positiveRat
      _ ≤ 2 ^ (num.log2 + 1) / 2 ^ den.log2 :=
          div_le_div_of_nonneg_left (by positivity) (by positivity) lower
      _ = 2 ^ ((num.log2 : ℤ) - den.log2 + 1) := by
          rw [← zpow_natCast, ← zpow_natCast, ← zpow_sub₀ two_ne_zero]
          congr 1
          push_cast
          ring
  · refine ⟨(num.log2 : ℤ) - den.log2 - 1, ?_, ?_, by simp [here]⟩
    · have lower : (2 : ℚ) ^ num.log2 ≤ num := by exact_mod_cast Nat.log2_self_le positive.ne'
      have upper : (den : ℚ) ≤ 2 ^ (den.log2 + 1) := by
        exact_mod_cast Nat.lt_log2_self.le
      calc (2 : ℚ) ^ ((num.log2 : ℤ) - den.log2 - 1)
          = 2 ^ num.log2 / 2 ^ (den.log2 + 1) := by
            rw [← zpow_natCast, ← zpow_natCast, ← zpow_sub₀ two_ne_zero]
            congr 1
            push_cast
            ring
        _ ≤ num / 2 ^ (den.log2 + 1) := div_le_div_of_nonneg_right lower (by positivity)
        _ ≤ num / den := div_le_div_of_nonneg_left (by positivity) positiveRat upper
    · rw [sub_add_cancel]
      exact not_le.mp here

/-- The bits of a rounded quotient are its count of units, and the units themselves. -/
theorem exists_count (positive : 0 < num) (positiveDen : 0 < den) :
    ∃ a b : Nat, 0 < b ∧ (a : ℚ) / b = num / den / 2 ^ unitExponent num den ∧
      nearestBits num den =
        min ((unitExponent num den + 1074).toNat * twoTo 52 + roundDiv a b)
          (2047 * twoTo 52) := by
  have positiveRat : (den : ℚ) ≠ 0 := Nat.cast_ne_zero.mpr positiveDen.ne'
  have nonzero : (num == 0) = false := beq_false_of_ne positive.ne'
  rw [nearestBits, nonzero, if_neg Bool.false_ne_true]
  by_cases large : 0 ≤ unitExponent num den
  · refine ⟨num, den * twoTo (unitExponent num den).toNat,
      Nat.mul_pos positiveDen (Nat.two_pow_pos _), ?_, by simp only [if_pos large]⟩
    have power : ((twoTo (unitExponent num den).toNat : ℕ) : ℚ) = 2 ^ unitExponent num den := by
      have none : (-unitExponent num den).toNat = 0 := by omega
      rw [cast_twoTo, pow_toNat two_ne_zero, none, pow_zero, mul_one]
    rw [Nat.cast_mul, power, div_div]
  · refine ⟨num * twoTo (-unitExponent num den).toNat, den, positiveDen, ?_,
      by simp only [if_neg large]⟩
    have power : ((twoTo (-unitExponent num den).toNat : ℕ) : ℚ) =
        (2 ^ unitExponent num den)⁻¹ := by
      have none : (unitExponent num den).toNat = 0 := by omega
      rw [cast_twoTo, pow_toNat two_ne_zero, neg_neg, none, pow_zero, mul_one, zpow_neg]
    rw [Nat.cast_mul, power, div_div, mul_div_right_comm, ← div_eq_mul_inv, div_div]

end

/-- The mantissa and the exponent of a positive float. -/
structure IsFloat (mantissa : Nat) (exponent : Int) : Prop where
  /-- The mantissa is not zero. -/
  positive : 0 < mantissa
  /-- The mantissa has at most 53 binary digits. -/
  mantissa_lt : mantissa < 2 ^ 53
  /-- The exponent is that of the least floats, or the mantissa has all its digits. -/
  full : exponent = -1074 ∨ -1074 < exponent ∧ 2 ^ 52 ≤ mantissa
  /-- The exponent is at most that of the greatest floats. -/
  greatest : exponent ≤ 971

/-- How far below a float numbers round to it: half of its unit, but only half of the smaller unit
below if the float is a power of two. -/
def reachBelow (mantissa : Nat) (exponent : Int) : ℚ :=
  if mantissa = 2 ^ 52 ∧ -1074 < exponent then 1 / 4 else 1 / 2

/-- Whether a number is nearest to a float; counted in units of the float. -/
structure RoundsTo (mantissa : Nat) (exponent : Int) (number : ℚ) : Prop where
  /-- The number is not too small. -/
  low : mantissa - reachBelow mantissa exponent ≤ number / 2 ^ exponent
  /-- The number is not too large. -/
  high : number / 2 ^ exponent ≤ mantissa + 1 / 2
  /-- A number between two floats goes to the one with the even mantissa. -/
  tie : number / 2 ^ exponent = mantissa - reachBelow mantissa exponent ∨
    number / 2 ^ exponent = mantissa + 1 / 2 → Even mantissa

section

variable {mantissa num den : Nat} {exponent : Int} (float : IsFloat mantissa exponent)

theorem reachBelow_le (mantissa : Nat) (exponent : Int) : reachBelow mantissa exponent ≤ 1 / 2 := by
  unfold reachBelow
  split <;> norm_num

include float

/-- The unit of a number that rounds to a float is that of the float, but for numbers just below a
power of two. -/
theorem unitExponent_of_roundsTo (positive : 0 < num) (positiveDen : 0 < den)
    (rounds : RoundsTo mantissa exponent (num / den)) :
    unitExponent num den = exponent ∨
      unitExponent num den = exponent - 1 ∧ mantissa = 2 ^ 52 ∧
        (num : ℚ) / den / 2 ^ exponent < 2 ^ 52 ∧
        2 ^ 52 - 1 / 4 ≤ (num : ℚ) / den / 2 ^ exponent := by
  obtain ⟨leading, low, high, unit⟩ := exists_leading positive positiveDen
  have scale : (0 : ℚ) < 2 ^ exponent := by positivity
  have base : (1 : ℚ) < 2 := one_lt_two
  have counted (power : ℤ) : (2 : ℚ) ^ (power + exponent) = 2 ^ power * 2 ^ exponent :=
    zpow_add₀ two_ne_zero _ _
  have top : (mantissa : ℚ) + 1 ≤ 2 ^ 53 := by exact_mod_cast float.mantissa_lt
  have above : leading < 53 + exponent := by
    refine (zpow_lt_zpow_iff_right₀ base).mp (low.trans_lt ?_)
    rw [counted, ← div_lt_iff₀ scale]
    exact rounds.high.trans_lt (by norm_num at top ⊢; linarith)
  have below (power : ℤ) (reached : 2 ^ power ≤ (num : ℚ) / den / 2 ^ exponent) :
      power + exponent ≤ leading := by
    refine Int.lt_add_one_iff.mp ((zpow_lt_zpow_iff_right₀ base).mp (lt_of_le_of_lt ?_ high))
    rwa [counted, ← le_div_iff₀ scale]
  rw [unit]
  rcases float.full with least | ⟨more, full⟩
  · exact .inl (by omega)
  rcases Nat.eq_or_lt_of_le full with power | larger
  · subst power
    have reach : reachBelow (2 ^ 52) exponent = 1 / 4 := if_pos ⟨rfl, more⟩
    have lower := rounds.low
    rw [reach] at lower
    have far := below 51 (le_trans (by norm_num) lower)
    by_cases same : leading = 52 + exponent
    · exact .inl (by omega)
    · refine .inr ⟨by omega, rfl, ?_, by rwa [Nat.cast_pow, Nat.cast_two] at lower⟩
      have next : leading + 1 = 52 + exponent := by omega
      rw [next, counted, ← div_lt_iff₀ scale] at high
      exact high
  · have reach := reachBelow_le mantissa exponent
    have least : (2 : ℚ) ^ 52 + 1 ≤ mantissa := by exact_mod_cast larger
    have far := below 52 (le_trans (by rw [zpow_ofNat]; linarith) rounds.low)
    exact .inl (by omega)

/-- Numbers nearest to a float are rounded to its bits. -/
theorem nearestBits_of_roundsTo (positive : 0 < num) (positiveDen : 0 < den)
    (rounds : RoundsTo mantissa exponent (num / den)) :
    nearestBits num den = (exponent + 1074).toNat * 2 ^ 52 + mantissa := by
  obtain ⟨a, b, positiveB, counted, bits⟩ := exists_count positive positiveDen
  have small := float.mantissa_lt
  have greatest := float.greatest
  have reach := reachBelow_le mantissa exponent
  rw [show twoTo 52 = 2 ^ 52 from rfl] at bits
  rcases unitExponent_of_roundsTo float positive positiveDen rounds with
    unit | ⟨unit, rfl, upper, lower⟩
  · rw [unit] at counted bits
    have count : roundDiv a b = mantissa := by
      refine roundDiv_eq positiveB ?_ ?_ ?_ <;> rw [counted]
      · linarith [rounds.low]
      · exact rounds.high
      · rintro (same | same)
        · exact rounds.tie (.inl (by linarith [rounds.low]))
        · exact rounds.tie (.inr same)
    have bound : (exponent + 1074).toNat ≤ 2045 := by omega
    rw [bits, count, Nat.min_eq_left (by omega)]
  · rw [unit] at counted bits
    have double : (a : ℚ) / b = 2 * (num / den / 2 ^ exponent) := by
      rw [counted, zpow_sub_one₀ two_ne_zero]
      field_simp
    have count : roundDiv a b = 2 ^ 53 := by
      refine roundDiv_eq positiveB ?_ ?_ fun _ => even_two.pow_of_ne_zero (by decide)
      · rw [double]
        push_cast
        linarith
      · rw [double]
        push_cast
        linarith
    have more : -1074 ≤ exponent - 1 := by
      rw [← unit, unitExponent]
      exact le_max_right _ _
    have next : (exponent + 1074).toNat = (exponent - 1 + 1074).toNat + 1 := by omega
    have bound : (exponent - 1 + 1074).toNat ≤ 2044 := by omega
    rw [bits, count, next, Nat.min_eq_left (by omega)]
    omega

end

section

open Float.Model

theorem valid_of_parts {bits : BitVec 64}
    (defined : bits.toNat / 2 ^ 52 % 2 ^ 11 = 2047 → bits.toNat % 2 ^ 52 = 0) :
    Format.binary64.Valid bits where
  eq_packedNaN exponent mantissa := by
    have scale := congrArg BitVec.toNat exponent
    rw [UnpackedFloat.unpackExponent_def, BitVec.extractLsb'_toNat,
      Nat.shiftRight_eq_div_pow] at scale
    refine absurd ?_ mantissa
    rw [← BitVec.toNat_inj, UnpackedFloat.unpackMantissa_def, BitVec.extractLsb'_toNat]
    exact defined scale

/-- Bits that stand for a number or an infinity are those of their float. -/
theorem toBits_ofBits {bits : UInt64}
    (defined : bits.toNat / 2 ^ 52 % 2 ^ 11 = 2047 → bits.toNat % 2 ^ 52 = 0) :
    (Float.ofBits bits).toBits = bits := by
  have same := UnpackedFloat.pack_unpack_of_valid (valid_of_parts defined)
  exact UInt64.toBitVec_inj.mp same

theorem nearestBits_le (num den : Nat) : nearestBits num den ≤ 2047 * twoTo 52 := by
  unfold nearestBits
  split
  · exact Nat.zero_le _
  · exact Nat.min_le_right _ _

theorem toBits_nearest (negative : Bool) (num den : Nat) :
    (nearest negative num den).toBits.toNat =
      (if negative then twoTo 63 else 0) + nearestBits num den := by
  have bound := nearestBits_le num den
  simp only [twoTo, Nat.pow_eq] at bound ⊢
  have small : (if negative then 2 ^ 63 else 0) + nearestBits num den < 2 ^ 64 := by
    split <;> omega
  have bits : (UInt64.ofNat ((if negative then 2 ^ 63 else 0) + nearestBits num den)).toNat =
      (if negative then 2 ^ 63 else 0) + nearestBits num den := by
    rw [UInt64.toNat_ofNat', Nat.mod_eq_of_lt small]
  rw [nearest, twoTo, Nat.pow_eq, toBits_ofBits, bits]
  rw [bits]
  split <;> omega

theorem nearest_ne_nan (negative : Bool) (num den : Nat) :
    nearest negative num den ≠ Float.nan := by
  intro same
  have bound := nearestBits_le num den
  have bits := toBits_nearest negative num den
  have undefined : Float.nan.toBits.toNat = 2047 * 2 ^ 52 + 2 ^ 51 := by decide +kernel
  rw [same, undefined] at bits
  simp only [twoTo, Nat.pow_eq] at bound bits
  split at bits <;> omega

end

end JourneyCost.Decimal
