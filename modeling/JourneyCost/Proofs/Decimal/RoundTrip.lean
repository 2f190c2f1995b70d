import JourneyCost.Decimal.Numeral
import JourneyCost.Proofs.Decimal.Rounding
import JourneyCost.Proofs.Decimal.Shortest
import JourneyCost.Proofs.Decimal.WholeValue

/-!
# Floats that are read back

A numeral for a number that rounds to a float is read as this float, for numerals outside the range
of floats are set apart only far from every float.
-/

namespace JourneyCost.Decimal

open Float.Model (UnpackedFloat)

section

variable {x : Float} {negative : Bool} {mantissa : Nat} {exponent : Int}
  (finite : Binary.ofFloat x = .finite negative mantissa exponent)

include finite

/-- The bits of a finite float are its sign, its units and its count of units. -/
theorem toBits_of_finite : x.toBits.toNat =
    (if negative then twoTo 63 else 0) + ((exponent + 1074).toNat * 2 ^ 52 + mantissa) := by
  have bound := x.toBits.toNat_lt
  have sign : (if signOf x then twoTo 63 else 0) = x.toBits.toNat / 2 ^ 63 * 2 ^ 63 := by
    have digit : x.toBits.toNat / 2 ^ 63 < 2 := by omega
    have ones : signOf x = (x.toBits.toNat / 2 ^ 63 % 2 == 1) := rfl
    rw [ones]
    simp only [twoTo, Nat.pow_eq]
    split <;> rename_i set <;> simp at set <;> omega
  have scale : scaleOf x = x.toBits.toNat / 2 ^ 52 % 2048 := rfl
  have fraction : fractionOf x = x.toBits.toNat % 2 ^ 52 := rfl
  cases hasParts_of_eq finite with
  | subnormal zero =>
      rw [sign]
      omega
  | normal nonzero bounded =>
      rw [sign]
      omega

theorem isFloat_of_finite (positive : 0 < mantissa) : IsFloat mantissa exponent := by
  have bound := fractionOf_lt x
  have limit : scaleOf x < 2048 := Nat.mod_lt _ (by decide)
  cases hasParts_of_eq finite with
  | subnormal zero => exact ⟨positive, by omega, .inl rfl, by omega⟩
  | normal nonzero bounded =>
      refine ⟨positive, by omega, ?_, by omega⟩
      by_cases least : scaleOf x = 1
      · exact .inl (by omega)
      · exact .inr ⟨by omega, Nat.le_add_right _ _⟩

theorem exponent_of_zero (none : mantissa = 0) : exponent = -1074 := by
  cases hasParts_of_eq finite with
  | subnormal zero => rfl
  | normal nonzero bounded => omega

/-- A float is nearest to whatever is rounded to its bits. -/
theorem nearest_of_finite {num den : Nat}
    (same : nearestBits num den = (exponent + 1074).toNat * 2 ^ 52 + mantissa) :
    nearest negative num den = x := by
  rw [nearest, same, ← toBits_of_finite finite, UInt64.ofNat_toNat, Float.ofBits_toBits]

end

section

variable {x : Float}

theorem eq_infinity_of_infinite {negative : Bool}
    (infinite : Binary.ofFloat x = .infinite negative) :
    x = if negative then -infinity else infinity := by
  cases hasParts_of_eq infinite with
  | infinite top none =>
      cases sign : signOf x with
      | false =>
          refine eq_of_parts (y := infinity) ?_ ?_ ?_
          · rw [sign]
            decide +kernel
          · rw [top]
            decide +kernel
          · rw [none]
            decide +kernel
      | true =>
          refine eq_of_parts (y := -infinity) ?_ ?_ ?_
          · rw [sign]
            decide +kernel
          · rw [top]
            decide +kernel
          · rw [none]
            decide +kernel

theorem eq_undefinedFloat_of_undefined (undefined : Binary.ofFloat x = .undefined) :
    x = undefinedFloat := by
  cases hasParts_of_eq undefined with
  | undefined top some_ =>
      rw [← Float.toBits_inj]
      refine UInt64.toBitVec_inj.mp (x.toModel.valid.eq_packedNaN ?_ fun none => ?_)
      · rw [← BitVec.toNat_inj, toNat_unpackExponent]
        exact top
      · rw [← BitVec.toNat_inj, toNat_unpackMantissa] at none
        exact some_ none

end

section

variable {x : Float} {negative : Bool} {mantissa : Nat} {exponent : Int}
  (finite : Binary.ofFloat x = .finite negative mantissa exponent)

theorem ten_zpow_le_toRat {decimal : Scaled} (positive : 0 < decimal.digits) :
    (10 : ℚ) ^ ((digitCount decimal.digits : ℤ) + decimal.scale - 1) ≤ decimal.toRat := by
  have least : ((10 ^ (digitCount decimal.digits - 1) : ℕ) : ℚ) ≤ decimal.digits :=
    Nat.cast_le.mpr (ten_pow_le_of_pos positive)
  have digits := digitCount_pos decimal.digits
  have exponent : (digitCount decimal.digits : ℤ) + decimal.scale - 1 =
      ((digitCount decimal.digits - 1 : ℕ) : ℤ) + decimal.scale := by omega
  rw [exponent, zpow_add₀ ten_ne_zero, zpow_natCast, Scaled.toRat]
  exact mul_le_mul_of_nonneg_right (by exact_mod_cast least) (by positivity)

theorem toRat_lt_ten_zpow (decimal : Scaled) :
    decimal.toRat < 10 ^ ((digitCount decimal.digits : ℤ) + decimal.scale) := by
  have most : (decimal.digits : ℚ) < ((10 ^ digitCount decimal.digits : ℕ) : ℚ) :=
    Nat.cast_lt.mpr (lt_ten_pow_digitCount _)
  rw [zpow_add₀ ten_ne_zero, zpow_natCast, Scaled.toRat]
  exact mul_lt_mul_of_pos_right (by exact_mod_cast most) (by positivity)

/-- Numbers that round to a float are neither too small nor too large to be read. -/
theorem place_of_roundsTo {decimal : Scaled} (float : IsFloat mantissa exponent)
    (rounds : RoundsTo mantissa exponent decimal.toRat) :
    0 < decimal.digits ∧ -330 < (digitCount decimal.digits : ℤ) + decimal.scale ∧
      (digitCount decimal.digits : ℤ) + decimal.scale ≤ 310 := by
  have unit : (0 : ℚ) < 2 ^ exponent := by positivity
  have base : (1 : ℚ) < 10 := by norm_num
  have reach := reachBelow_le mantissa exponent
  have one : (1 : ℚ) ≤ mantissa := by exact_mod_cast float.positive
  have top : (mantissa : ℚ) + 1 ≤ 2 ^ 53 := by exact_mod_cast float.mantissa_lt
  have low : 1 / 2 * 2 ^ exponent ≤ decimal.toRat :=
    (le_div_iff₀ unit).mp (le_trans (by linarith) rounds.low)
  have high : decimal.toRat ≤ 2 ^ 53 * 2 ^ exponent :=
    (div_le_iff₀ unit).mp (rounds.high.trans (by linarith))
  have positive : 0 < decimal.digits := by
    refine Nat.pos_of_ne_zero fun none => ?_
    rw [Scaled.toRat, none, Nat.cast_zero, zero_mul] at low
    linarith
  refine ⟨positive, ?_, ?_⟩
  · have least : (2 : ℚ) ^ (-1074 : ℤ) ≤ 2 ^ exponent :=
      zpow_le_zpow_right₀ one_le_two (by rcases float.full with same | ⟨more, -⟩ <;> omega)
    have powers : (2 : ℚ) * 2 ^ 1074 < 10 ^ 330 := by
      exact_mod_cast (by decide +kernel : 2 * 2 ^ 1074 < 10 ^ 330)
    have far : (10 : ℚ) ^ (-330 : ℤ) < 1 / 2 * 2 ^ (-1074 : ℤ) := by
      rw [zpow_neg, zpow_neg, zpow_ofNat, zpow_ofNat, one_div, ← mul_inv]
      exact inv_strictAnti₀ (by positivity) powers
    refine (zpow_lt_zpow_iff_right₀ base).mp ?_
    linarith [toRat_lt_ten_zpow decimal]
  · have most : (2 : ℚ) ^ exponent ≤ 2 ^ (971 : ℤ) := zpow_le_zpow_right₀ one_le_two float.greatest
    have far : (2 : ℚ) ^ 53 * 2 ^ (971 : ℤ) < 10 ^ (309 : ℤ) := by
      rw [zpow_ofNat, zpow_ofNat]
      exact_mod_cast (by decide +kernel : 2 ^ 53 * 2 ^ 971 < 10 ^ 309)
    have below : (digitCount decimal.digits : ℤ) + decimal.scale - 1 < 309 := by
      refine (zpow_lt_zpow_iff_right₀ base).mp ((ten_zpow_le_toRat positive).trans_lt ?_)
      exact (high.trans (mul_le_mul_of_nonneg_left most (by positivity))).trans_lt far
    omega

include finite

/-- A numeral for a number that rounds to a float is read as the float. -/
theorem toFloat_of_roundsTo (positive : 0 < mantissa) {digits : Nat} {scale : Int}
    (rounds : RoundsTo mantissa exponent (Scaled.mk digits scale).toRat) :
    (Numeral.mk negative digits scale).toFloat = x := by
  have float := isFloat_of_finite finite positive
  obtain ⟨positiveDigits, small, large⟩ := place_of_roundsTo float rounds
  have regular : ¬ (digits == 0 || decide ((digitCount digits : ℤ) + scale < -330)) = true := by
    simpa using ⟨positiveDigits.ne', small.le⟩
  rw [Numeral.toFloat]
  simp only [if_neg regular, if_neg (not_lt.mpr large)]
  refine nearest_of_finite finite (nearestBits_of_roundsTo float
    (Nat.mul_pos positiveDigits (Nat.pow_pos (by decide))) (Nat.pow_pos (by decide)) ?_)
  have shift : (10 : ℚ) ^ (-scale).toNat ≠ 0 := by positivity
  have number : ((digits * tenTo scale.toNat : ℕ) : ℚ) / (tenTo (-scale).toNat : ℕ) =
      (Scaled.mk digits scale).toRat := by
    rw [Nat.cast_mul, cast_tenTo, cast_tenTo, pow_toNat ten_ne_zero scale, Scaled.toRat]
    field_simp
  rw [number]
  exact rounds

/-- A zero is read from a numeral without digits. -/
theorem toFloat_of_zero (none : mantissa = 0) (scale : Int) :
    (Numeral.mk negative 0 scale).toFloat = x := by
  rw [Numeral.toFloat]
  refine nearest_of_finite finite ?_
  rw [exponent_of_zero finite none, none]
  rfl

end

end JourneyCost.Decimal
