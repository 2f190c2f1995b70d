import JourneyCost.Decimal.Shortest
import JourneyCost.Proofs.Decimal.Rounding

/-!
# Shortest decimals

The shortest decimal of a float is found on some grid of at most 17 digits, for one of the two
neighbours of the float on this grid is nearer than the floats next to it.  So the decimal rounds to
the float.
-/

namespace JourneyCost.Decimal

/-- The number that a decimal stands for. -/
def Scaled.toRat (decimal : Scaled) : ℚ := decimal.digits * 10 ^ decimal.scale

theorem cast_tenTo (exponent : Nat) : ((tenTo exponent : ℕ) : ℚ) = 10 ^ exponent := by
  simp [tenTo]

theorem ten_ne_zero : (10 : ℚ) ≠ 0 := by norm_num

theorem digitCount_pos (n : Nat) : 0 < digitCount n := Nat.length_toDigits_pos

theorem lt_ten_pow_digitCount (n : Nat) : n < 10 ^ digitCount n :=
  (Nat.length_toDigits_le_iff (by decide) (digitCount_pos n)).mp (le_refl _)

theorem ten_pow_le_of_pos {n : Nat} (positive : 0 < n) : 10 ^ (digitCount n - 1) ≤ n := by
  rcases Nat.eq_zero_or_pos (digitCount n - 1) with none | more
  · rwa [none, pow_zero]
  · by_contra less
    have short := (Nat.length_toDigits_le_iff (by decide) more).mpr (not_le.mp less)
    have long := digitCount_pos n
    rw [digitCount] at short long
    omega

/-- The place of the point is not too far to the left. -/
theorem zpow_pointPlace_le {num den : Nat} (positive : 0 < num) (positiveDen : 0 < den) :
    (10 : ℚ) ^ (pointPlace num den - 1) ≤ num / den := by
  have positiveRat : (0 : ℚ) < den := Nat.cast_pos.mpr positiveDen
  rw [le_div_iff₀ positiveRat, pointPlace]
  by_cases whole : den ≤ num
  · have quotient : 0 < num / den := Nat.div_pos whole positiveDen
    have least := Nat.mul_le_mul_right den (ten_pow_le_of_pos quotient)
    have digits := digitCount_pos (num / den)
    have exponent : ((digitCount (num / den) : ℕ) : ℤ) - 1 =
        ((digitCount (num / den) - 1 : ℕ) : ℤ) := by omega
    rw [if_pos whole, exponent, zpow_natCast]
    exact_mod_cast least.trans (Nat.div_mul_le_self num den)
  · rw [if_neg whole]
    have inverse {count : Nat} {place : ℤ} (exponent : place - 1 = -(count : ℤ))
        (least : den ≤ num * 10 ^ count) : (10 : ℚ) ^ (place - 1) * den ≤ num := by
      rw [exponent, zpow_neg, zpow_natCast, inv_mul_le_iff₀ (by positivity), mul_comm]
      exact_mod_cast least
    by_cases reached : den ≤ num * tenTo (digitCount (den / num) - 1)
    · simp only [if_pos reached]
      exact inverse (by ring) reached
    · simp only [if_neg reached]
      have below := (Nat.div_lt_iff_lt_mul positive).mp (lt_ten_pow_digitCount (den / num))
      exact inverse (by ring) (mul_comm num _ ▸ below.le)

namespace Interval

variable {range : Interval} {decimal : Scaled}

theorem bound_le_iff (positive : 0 < range.den) (bound : Nat) :
    bound * tenTo (-decimal.scale).toNat ≤ decimal.digits * tenTo decimal.scale.toNat * range.den ↔
      (bound : ℚ) / range.den ≤ decimal.toRat := by
  have positiveRat : (0 : ℚ) < range.den := Nat.cast_pos.mpr positive
  have shift : (0 : ℚ) < 10 ^ (-decimal.scale).toNat := by positivity
  rw [div_le_iff₀ positiveRat, ← mul_le_mul_iff_left₀ shift, Scaled.toRat,
    mul_right_comm _ _ (_ ^ _), mul_assoc (decimal.digits : ℚ), ← pow_toNat ten_ne_zero,
    ← cast_tenTo, ← cast_tenTo]
  norm_cast

theorem le_bound_iff (positive : 0 < range.den) (bound : Nat) :
    decimal.digits * tenTo decimal.scale.toNat * range.den ≤ bound * tenTo (-decimal.scale).toNat ↔
      decimal.toRat ≤ (bound : ℚ) / range.den := by
  have positiveRat : (0 : ℚ) < range.den := Nat.cast_pos.mpr positive
  have shift : (0 : ℚ) < 10 ^ (-decimal.scale).toNat := by positivity
  rw [le_div_iff₀ positiveRat, ← mul_le_mul_iff_left₀ shift, Scaled.toRat,
    mul_right_comm _ _ (_ ^ _), mul_assoc (decimal.digits : ℚ), ← pow_toNat ten_ne_zero,
    ← cast_tenTo, ← cast_tenTo]
  norm_cast

theorem holds_iff (positive : 0 < range.den) :
    range.holds decimal = true ↔
      ((range.low : ℚ) / range.den ≤ decimal.toRat ∧ decimal.toRat ≤ range.high / range.den) ∧
        ((range.low : ℚ) / range.den = decimal.toRat ∨ decimal.toRat = range.high / range.den →
          range.closed = true) := by
  rw [holds]
  cases closed : range.closed with
  | true =>
      rw [if_pos rfl, Bool.and_eq_true, decide_eq_true_iff, decide_eq_true_iff,
        bound_le_iff positive, le_bound_iff positive]
      simp
  | false =>
      rw [if_neg Bool.false_ne_true, Bool.and_eq_true, decide_eq_true_iff, decide_eq_true_iff,
        ← not_le, ← not_le, le_bound_iff positive, bound_le_iff positive, not_le, not_le]
      constructor
      · rintro ⟨low, high⟩
        exact ⟨⟨low.le, high.le⟩, fun tie => absurd tie (not_or.mpr ⟨low.ne, high.ne⟩)⟩
      · rintro ⟨⟨low, high⟩, tie⟩
        exact ⟨low.lt_of_ne fun same => Bool.false_ne_true (tie (.inl same)),
          high.lt_of_ne fun same => Bool.false_ne_true (tie (.inr same))⟩

theorem holds_of_onGrid? {scale : Int} (found : range.onGrid? scale = some decimal) :
    range.holds decimal = true := by
  have near (num den : Nat) : roundDiv num den = num / den ∨ roundDiv num den = num / den + 1 := by
    rw [roundDiv]
    split_ifs <;> simp
  simp only [onGrid?] at found
  cases below : range.holds
      ⟨range.value * tenTo (-scale).toNat / (range.den * tenTo scale.toNat), scale⟩ <;>
    cases above : range.holds
      ⟨range.value * tenTo (-scale).toNat / (range.den * tenTo scale.toNat) + 1, scale⟩ <;>
    rw [below, above] at found
  · cases found
  · rwa [← Option.some.inj found]
  · rwa [← Option.some.inj found]
  · rw [← Option.some.inj found]
    rcases near (range.value * tenTo (-scale).toNat) (range.den * tenTo scale.toNat) with
      same | same
    · rwa [same]
    · rwa [same]

theorem holds_of_search {place : Int} {counts : List Nat}
    (found : range.search place counts = some decimal) : range.holds decimal = true := by
  induction counts with
  | nil => cases found
  | cons count more induction =>
      rw [search] at found
      cases hit : range.onGrid? (place - count) with
      | none => exact induction (by simpa only [hit] using found)
      | some first =>
          rw [hit] at found
          rw [← Option.some.inj found]
          exact holds_of_onGrid? hit

theorem exists_search {place : Int} {counts : List Nat} {count : Nat} (member : count ∈ counts)
    (hit : range.onGrid? (place - count) ≠ none) :
    ∃ decimal, range.search place counts = some decimal := by
  induction counts with
  | nil => cases member
  | cons first more induction =>
      rw [search]
      cases there : range.onGrid? (place - first) with
      | some decimal => exact ⟨decimal, rfl⟩
      | none =>
          rcases List.mem_cons.mp member with rfl | later
          · exact absurd there hit
          · exact induction later

/-- A neighbour on a grid lies in the interval if half a step is less than the way to either
bound. -/
theorem onGrid?_ne_none {scale : Int} (positive : 0 < range.den)
    (low : (range.low : ℚ) / range.den + 10 ^ scale / 2 < range.value / range.den)
    (high : (range.value : ℚ) / range.den + 10 ^ scale / 2 < range.high / range.den) :
    range.onGrid? scale ≠ none := by
  have positiveRat : (0 : ℚ) < range.den := Nat.cast_pos.mpr positive
  have step : (0 : ℚ) < 10 ^ scale := by positivity
  have shift : (0 : ℚ) < 10 ^ (-scale).toNat := by positivity
  set num := range.value * tenTo (-scale).toNat with numIs
  set den := range.den * tenTo scale.toNat with denIs
  have positiveDen : 0 < den := Nat.mul_pos positive (Nat.pow_pos (by decide))
  have counted : (range.value : ℚ) / range.den = num / den * 10 ^ scale := by
    rw [numIs, denIs, Nat.cast_mul, Nat.cast_mul, cast_tenTo, cast_tenTo,
      pow_toNat ten_ne_zero scale]
    field_simp
  have floor : ((num / den : ℕ) : ℚ) ≤ num / den := Nat.cast_div_le
  have ceiling : (num : ℚ) / den < ((num / den : ℕ) : ℚ) + 1 := by
    rw [div_lt_iff₀ (Nat.cast_pos.mpr positiveDen), mul_comm]
    exact_mod_cast Nat.lt_mul_div_succ num positiveDen
  rw [counted] at low high
  have inside (digits : Nat) (above : (range.low : ℚ) / range.den < digits * 10 ^ scale)
      (below : (digits : ℚ) * 10 ^ scale < range.high / range.den) :
      range.holds ⟨digits, scale⟩ = true :=
    (holds_iff positive).mpr ⟨⟨above.le, below.le⟩,
      fun tie => absurd tie (not_or.mpr ⟨above.ne, below.ne⟩)⟩
  have hit : range.holds ⟨num / den, scale⟩ = true ∨ range.holds ⟨num / den + 1, scale⟩ = true := by
    by_cases half : (num : ℚ) / den - (num / den : ℕ) ≤ 1 / 2
    · exact .inl (inside _ (by nlinarith) (by nlinarith))
    · refine .inr (inside _ ?_ ?_) <;> rw [Nat.cast_add, Nat.cast_one] <;> nlinarith
  intro missed
  simp only [onGrid?] at missed
  cases below : range.holds ⟨num / den, scale⟩ <;>
    cases above : range.holds ⟨num / den + 1, scale⟩ <;>
    simp [← numIs, ← denIs, below, above] at missed hit

variable {mantissa : Nat} {exponent : Int}

theorem den_ofBinary_pos (mantissa : Nat) (exponent : Int) :
    0 < (ofBinary mantissa exponent).den := Nat.two_pow_pos _

theorem scale_ofBinary (exponent : Int) :
    (twoTo (exponent - 2).toNat : ℚ) / twoTo (2 - exponent).toNat = 2 ^ exponent / 4 := by
  have shift : (2 : ℚ) ^ (2 - exponent).toNat ≠ 0 := by positivity
  rw [cast_twoTo, cast_twoTo, pow_toNat two_ne_zero, neg_sub, mul_div_cancel_right₀ _ shift,
    zpow_sub₀ two_ne_zero]
  norm_num

theorem value_ofBinary (mantissa : Nat) (exponent : Int) :
    ((ofBinary mantissa exponent).value : ℚ) / (ofBinary mantissa exponent).den =
      mantissa * 2 ^ exponent := by
  rw [ofBinary, Nat.cast_mul, mul_div_assoc, scale_ofBinary]
  push_cast
  ring

theorem high_ofBinary (mantissa : Nat) (exponent : Int) :
    ((ofBinary mantissa exponent).high : ℚ) / (ofBinary mantissa exponent).den =
      (mantissa + 1 / 2) * 2 ^ exponent := by
  rw [ofBinary, Nat.cast_mul, mul_div_assoc, scale_ofBinary]
  push_cast
  ring

theorem low_ofBinary (positive : 0 < mantissa) (exponent : Int) :
    ((ofBinary mantissa exponent).low : ℚ) / (ofBinary mantissa exponent).den =
      (mantissa - reachBelow mantissa exponent) * 2 ^ exponent := by
  rw [ofBinary, Nat.cast_mul, mul_div_assoc, scale_ofBinary, Nat.cast_sub]
  · rw [reachBelow]
    by_cases power : mantissa = 2 ^ 52 ∧ -1074 < exponent
    · have test : (mantissa == twoTo 52 && decide (-1074 < exponent)) = true := by
        simpa [twoTo] using power
      rw [if_pos power, if_pos test]
      push_cast
      ring
    · have test : ¬ (mantissa == twoTo 52 && decide (-1074 < exponent)) = true := by
        simpa [twoTo] using power
      rw [if_neg power, if_neg test]
      push_cast
      ring
  · split <;> omega

theorem roundsTo_of_holds (positive : 0 < mantissa)
    (inside : (ofBinary mantissa exponent).holds decimal = true) :
    RoundsTo mantissa exponent decimal.toRat := by
  have scale : (0 : ℚ) < 2 ^ exponent := by positivity
  obtain ⟨⟨low, high⟩, tie⟩ := (holds_iff (den_ofBinary_pos _ _)).mp inside
  rw [low_ofBinary positive] at low tie
  rw [high_ofBinary] at high tie
  refine ⟨(le_div_iff₀ scale).mpr low, (div_le_iff₀ scale).mpr high, fun between => ?_⟩
  have closed : (mantissa % 2 == 0) = true := by
    refine tie (between.imp ?_ ?_)
    · exact fun same => ((div_eq_iff scale.ne').mp same).symm
    · exact fun same => (div_eq_iff scale.ne').mp same
  exact Nat.even_iff.mpr (beq_iff_eq.mp closed)

end Interval

section

variable {mantissa : Nat} {exponent : Int} (float : IsFloat mantissa exponent)

include float

/-- Half a step on the grid of 17 digits is less than the way to the bounds of the interval. -/
theorem half_step_lt {scale : Int} (place : (10 : ℚ) ^ (scale + 16) ≤ mantissa * 2 ^ exponent) :
    (10 : ℚ) ^ scale / 2 < reachBelow mantissa exponent * 2 ^ exponent := by
  have unit : (0 : ℚ) < 2 ^ exponent := by positivity
  rw [zpow_add₀ ten_ne_zero, zpow_ofNat] at place
  have top : (mantissa : ℚ) ≤ 2 ^ 53 := by exact_mod_cast float.mantissa_lt.le
  rw [reachBelow]
  split
  · rename_i power
    have least : (mantissa : ℚ) = 2 ^ 52 := by exact_mod_cast power.1
    rw [least] at place
    linarith
  · nlinarith

theorem exists_search_ofBinary :
    ∃ decimal, (Interval.ofBinary mantissa exponent).search
      (pointPlace (Interval.ofBinary mantissa exponent).value
        (Interval.ofBinary mantissa exponent).den) (List.range' 1 17) = some decimal := by
  have value := Interval.value_ofBinary mantissa exponent
  have positiveValue : 0 < (Interval.ofBinary mantissa exponent).value :=
    Nat.mul_pos (Nat.mul_pos (by decide) float.positive) (Nat.two_pow_pos _)
  have positiveDen := Interval.den_ofBinary_pos mantissa exponent
  have place := zpow_pointPlace_le positiveValue positiveDen
  set point := pointPlace (Interval.ofBinary mantissa exponent).value
    (Interval.ofBinary mantissa exponent).den
  rw [value] at place
  have grid : (point - ((17 : ℕ) : ℤ)) + 16 = point - 1 := by
    push_cast
    ring
  have step := half_step_lt float (grid ▸ place)
  have reach := reachBelow_le mantissa exponent
  have unit : (0 : ℚ) < 2 ^ exponent := by positivity
  refine Interval.exists_search (show 17 ∈ List.range' 1 17 by decide)
    (Interval.onGrid?_ne_none positiveDen ?_ ?_)
  · rw [value, Interval.low_ofBinary float.positive]
    linarith
  · rw [value, Interval.high_ofBinary]
    nlinarith

/-- The shortest decimal of a float rounds to the float. -/
theorem roundsTo_shortest : RoundsTo mantissa exponent (shortest mantissa exponent).toRat := by
  obtain ⟨decimal, found⟩ := exists_search_ofBinary float
  have same : shortest mantissa exponent = decimal := by
    rw [shortest, found, Option.getD_some]
  rw [same]
  exact Interval.roundsTo_of_holds float.positive (Interval.holds_of_search found)

end

end JourneyCost.Decimal
