import JourneyCost.Decimal.Writing
import JourneyCost.Proofs.Decimal.RoundTrip
import JourneyCost.Proofs.Decimal.Sign

/-!
# Finite floats

What is not finite never becomes so again: a finite sum has finite summands, and a finite quotient a
finite dividend.  Rounding to decimal places leaves the finite floats finite, and all others as they
are.
-/

namespace JourneyCost.Decimal

open Float.Model (Format UnpackedFloat)
open Float.Model.UnpackedFloat

section

variable {spec : Format} {a b : UnpackedFloat}

/-- Bits stand for a finite float unless all bits of their exponent are set. -/
theorem isFinite_unpack_iff (bits : BitVec spec.numBits) :
    (unpack spec bits).isFinite = true ↔ unpackExponent bits ≠ -1#_ := by
  unfold unpack
  simp only
  split
  · rename_i special
    split <;> simp [UnpackedFloat.isFinite, special]
  · rename_i regular
    split
    · split <;> simp [UnpackedFloat.isFinite, regular]
    · simp [UnpackedFloat.isFinite, regular]

theorem isFinite_of_unpack_pack (finite : (unpack spec (pack spec a)).isFinite = true) :
    a.isFinite = true := by
  cases a with
  | notANumber | infinity => simp [isFinite_unpack_iff, pack, packedNaN, packedInfinity] at finite
  | zero | finite => rfl

theorem isFinite_of_unpacked_add (finite : (UnpackedFloat.add spec a b).isFinite = true) :
    a.isFinite = true ∧ b.isFinite = true := by
  cases a with
  | notANumber => cases finite
  | infinity sign =>
      cases b with
      | infinity other =>
          rw [UnpackedFloat.add] at finite
          split at finite <;> cases finite
      | notANumber | zero | finite => cases finite
  | zero | finite =>
      cases b with
      | notANumber | infinity => cases finite
      | zero | finite => exact ⟨rfl, rfl⟩

theorem isFinite_of_unpacked_div (finite : (UnpackedFloat.div spec a b).isFinite = true) :
    a.isFinite = true := by
  cases a with
  | notANumber => cases finite
  | infinity sign => cases b <;> cases finite
  | zero | finite => rfl

end

section

variable {x y : Float}

theorem isFinite_of_add (finite : (x + y).isFinite = true) :
    x.isFinite = true ∧ y.isFinite = true :=
  isFinite_of_unpacked_add (@isFinite_of_unpack_pack Format.binary64 _ finite)

theorem isFinite_of_div (finite : (x / y).isFinite = true) : x.isFinite = true :=
  isFinite_of_unpacked_div (@isFinite_of_unpack_pack Format.binary64 _ finite)

/-- A sum over a list is finite only if it is so from its first term on. -/
theorem isFinite_of_foldl_add {α : Type} {term : α → Float} {items : List α}
    (finite : (items.foldl (fun sum item => sum + term item) x).isFinite = true) :
    x.isFinite = true ∧ ∀ item ∈ items, (term item).isFinite = true := by
  induction items generalizing x with
  | nil => exact ⟨finite, List.forall_mem_nil _⟩
  | cons first rest induction =>
      obtain ⟨begun, later⟩ := induction finite
      obtain ⟨before, here⟩ := isFinite_of_add begun
      exact ⟨before, List.forall_mem_cons.mpr ⟨here, later⟩⟩

end

section

variable {x : Float}

theorem isFinite_iff_scaleOf : x.isFinite = true ↔ scaleOf x ≠ 2047 := by
  change (unpack Format.binary64 x.toModel.toBits.toBitVec).isFinite = true ↔ _
  rw [isFinite_unpack_iff, Ne, ← BitVec.toNat_inj, toNat_unpackExponent]
  rfl

theorem isFinite_iff_ofFloat : x.isFinite = true ↔
    ∃ negative mantissa exponent, Binary.ofFloat x = .finite negative mantissa exponent := by
  rw [isFinite_iff_scaleOf]
  have parts := hasParts_ofFloat x
  generalize Binary.ofFloat x = binary at parts ⊢
  cases parts with
  | subnormal zero => simp [zero]
  | normal nonzero bounded => simp [bounded]
  | infinite top none => simp [top]
  | undefined top some_ => simp [top]

/-- Only a finite number has a next integer. -/
theorem isFinite_of_ceiling? {n : Int} (found : ceiling? x = some n) : x.isFinite = true := by
  unfold ceiling? at found
  split at found
  · exact isFinite_iff_ofFloat.mpr ⟨_, _, _, by assumption⟩
  · cases found

end

theorem isFinite_nearest {num den : Nat} (negative : Bool)
    (below : nearestBits num den < 2047 * twoTo 52) :
    (nearest negative num den).isFinite = true := by
  rw [isFinite_iff_scaleOf, scaleOf, toBits_nearest]
  simp only [twoTo, Nat.pow_eq] at below ⊢
  split <;> omega

/-- A quotient is rounded up at most from the middle between two whole numbers. -/
theorem roundDiv_le_of_lt {num den bound : Nat} (below : 2 * num < (2 * bound + 1) * den) :
    roundDiv num den ≤ bound := by
  have positive : 0 < den := Nat.pos_of_mul_pos_left (Nat.zero_lt_of_lt below)
  have rest := Nat.mod_lt num positive
  have division := Nat.div_add_mod num den
  have whole : num / den ≤ bound :=
    Nat.le_of_lt_succ ((Nat.div_lt_iff_lt_mul positive).mpr (by nlinarith))
  rw [roundDiv]
  rcases Nat.lt_or_eq_of_le whole with less | same
  · split
    · exact whole
    · split
      · exact less
      · split <;> omega
  · have down : 2 * (num % den) < den := by
      rw [same] at division
      nlinarith
    rw [if_pos down, same]

/-- A quotient is not rounded past a whole number. -/
theorem roundDiv_le {num den bound : Nat} (positive : 0 < den) (below : num ≤ bound * den) :
    roundDiv num den ≤ bound :=
  roundDiv_le_of_lt (by nlinarith)

theorem twoTo_pos (exponent : Nat) : 0 < twoTo exponent := Nat.two_pow_pos exponent

theorem twoTo_le_twoTo {low high : Nat} (ordered : low ≤ high) : twoTo low ≤ twoTo high :=
  Nat.pow_le_pow_right (by decide) ordered

theorem cast_overflowLimit : (overflowLimit : ℚ) = (2 ^ 53 - 1 / 2) * 2 ^ (971 : ℤ) := by
  have whole : (2 : ℚ) ^ 1024 = 2 ^ 54 * 2 ^ 970 := pow_add 2 54 970
  have unit : (2 : ℚ) ^ 971 = 2 ^ 1 * 2 ^ 970 := pow_add 2 1 970
  have ordered : twoTo 970 ≤ twoTo 1024 := twoTo_le_twoTo (by decide)
  rw [overflowLimit, Nat.cast_sub ordered, cast_twoTo, cast_twoTo, zpow_ofNat, whole, unit]
  generalize (2 : ℚ) ^ 970 = half
  ring

/-- Quotients below the limit are rounded to finite floats. -/
theorem nearestBits_lt {num den : Nat} (positiveDen : 0 < den)
    (below : (num : ℚ) / den < overflowLimit) : nearestBits num den < 2047 * twoTo 52 := by
  rcases Nat.eq_zero_or_pos num with rfl | positive
  · exact Nat.mul_pos (by decide) (twoTo_pos 52)
  obtain ⟨leading, low, high, unit⟩ := exists_leading positive positiveDen
  obtain ⟨a, b, positiveB, counted, bits⟩ := exists_count positive positiveDen
  have small : leading < 1024 := by
    have limit : overflowLimit < twoTo 1024 := Nat.sub_lt (twoTo_pos 1024) (twoTo_pos 970)
    have power : (twoTo 1024 : ℚ) = 2 ^ (1024 : ℤ) :=
      (cast_twoTo 1024).trans (zpow_ofNat 2 1024).symm
    refine (zpow_lt_zpow_iff_right₀ (one_lt_two : (1 : ℚ) < 2)).mp (low.trans_lt ?_)
    exact below.trans (power ▸ Nat.cast_lt.mpr limit)
  have unitPositive : (0 : ℚ) < 2 ^ unitExponent num den := by positivity
  have positiveRat : (0 : ℚ) < b := Nat.cast_pos.mpr positiveB
  have least : nearestBits num den ≤
      (unitExponent num den + 1074).toNat * twoTo 52 + roundDiv a b := bits ▸ Nat.min_le_left _ _
  rcases Int.lt_or_eq_of_le (Int.le_sub_one_of_lt small) with less | top
  · have count : roundDiv a b ≤ 2 ^ 53 := by
      refine roundDiv_le positiveB ?_
      have quotient : (a : ℚ) / b ≤ 2 ^ 53 := by
        rw [counted, div_le_iff₀ unitPositive]
        calc (num : ℚ) / den
            ≤ 2 ^ (leading + 1) := high.le
          _ ≤ 2 ^ ((53 : ℤ) + unitExponent num den) :=
              zpow_le_zpow_right₀ one_le_two (by rw [unit]; omega)
          _ = 2 ^ 53 * 2 ^ unitExponent num den := by
              rw [zpow_add₀ two_ne_zero, zpow_ofNat]
      rw [div_le_iff₀ positiveRat] at quotient
      exact_mod_cast quotient
    have units : (unitExponent num den + 1074).toNat ≤ 2044 := by omega
    calc nearestBits num den
        ≤ 2044 * twoTo 52 + 2 ^ 53 :=
          least.trans (Nat.add_le_add (Nat.mul_le_mul_right _ units) count)
      _ < 2047 * twoTo 52 := by decide
  · -- The greatest unit is counted less than 2 ^ 53 times, up to the middle before this count.
    have units : unitExponent num den = 971 := by omega
    have count : roundDiv a b ≤ 2 ^ 53 - 1 := by
      refine roundDiv_le_of_lt ?_
      have quotient : (a : ℚ) / b < 2 ^ 53 - 1 / 2 := by
        rw [counted, units, div_lt_iff₀ (by positivity), ← cast_overflowLimit]
        exact below
      rw [div_lt_iff₀ positiveRat] at quotient
      have double : (2 * a : ℚ) < (2 ^ 54 - 1 : ℕ) * b := by
        norm_num
        linarith
      exact_mod_cast double
    rw [units] at least
    calc nearestBits num den
        ≤ 2045 * twoTo 52 + (2 ^ 53 - 1) := least.trans (Nat.add_le_add_left count _)
      _ < 2047 * twoTo 52 := by decide

/-- An integer that a float can hold is held by a finite one. -/
theorem isFinite_of_floatOfInt? {n : Int} {x : Float} (held : floatOfInt? n = some x) :
    x.isFinite = true := by
  unfold floatOfInt? at held
  split at held
  · cases held
  · rename_i inside
    obtain rfl := Option.some.inj held
    refine isFinite_nearest _ (nearestBits_lt Nat.one_pos ?_)
    rw [Nat.cast_one, div_one]
    exact_mod_cast Nat.lt_of_not_le inside

/-- The mantissa of a finite float has at most 53 digits, and is not zero if the exponent is not
below zero. -/
theorem mantissa_of_finite {x : Float} {negative : Bool} {mantissa : Nat} {exponent : Int}
    (finite : Binary.ofFloat x = .finite negative mantissa exponent) :
    mantissa < 2 ^ 53 ∧ (0 ≤ exponent → 0 < mantissa) := by
  have bound := fractionOf_lt x
  cases hasParts_of_eq finite with
  | subnormal zero => exact ⟨by omega, by omega⟩
  | normal nonzero bounded => exact ⟨by omega, by omega⟩

/-- A float with a whole value is nearest to this value. -/
theorem nearest_of_whole {x : Float} {negative : Bool} {mantissa exponent scale : Nat}
    (finite : Binary.ofFloat x = .finite negative mantissa exponent) (positive : 0 < scale) :
    nearest negative (mantissa * twoTo exponent * scale) scale = x := by
  have filled := (mantissa_of_finite finite).2 (Int.natCast_nonneg _)
  have float := isFloat_of_finite finite filled
  refine nearest_of_finite finite (nearestBits_of_roundsTo float ?_ positive ?_)
  · exact Nat.mul_pos (Nat.mul_pos filled (Nat.two_pow_pos _)) positive
  · have value : ((mantissa * twoTo exponent * scale : ℕ) : ℚ) / scale / 2 ^ (exponent : ℤ) =
        mantissa := by
      have nonzero : (scale : ℚ) ≠ 0 := Nat.cast_ne_zero.mpr positive.ne'
      rw [Nat.cast_mul, Nat.cast_mul, cast_twoTo, zpow_natCast]
      field_simp
    have reach : 0 < reachBelow mantissa exponent := by
      unfold reachBelow
      split <;> norm_num
    refine ⟨?_, ?_, ?_⟩ <;> rw [value]
    · linarith
    · linarith
    · rintro (same | same) <;> linarith

theorem roundDiv_one (num : Nat) : roundDiv num 1 = num := by
  simp [roundDiv, Nat.mod_one]

/-- Rounding to decimal places neither makes nor hides what is not finite. -/
theorem isFinite_roundTo (places : Nat) (x : Float) : (roundTo places x).isFinite = x.isFinite := by
  unfold roundTo
  split
  · rename_i negative mantissa exponent finite
    have positive : 0 < tenTo places := Nat.pow_pos (by decide)
    rw [isFinite_iff_ofFloat.mpr ⟨_, _, _, finite⟩]
    rcases Int.le_total 0 exponent with whole | broken
    · obtain ⟨n, rfl⟩ := Int.eq_ofNat_of_zero_le whole
      have one : twoTo (-(n : Int)).toNat = 1 := by
        rw [Int.toNat_of_nonpos (by omega)]
        rfl
      simp only [Int.toNat_natCast, one, roundDiv_one, nearest_of_whole finite positive]
      exact isFinite_iff_ofFloat.mpr ⟨_, _, _, finite⟩
    · have one : twoTo exponent.toNat = 1 := by
        rw [Int.toNat_of_nonpos broken]
        rfl
      have count : roundDiv (mantissa * twoTo exponent.toNat * tenTo places)
          (twoTo (-exponent).toNat) ≤ mantissa * tenTo places := by
        rw [one, mul_one]
        exact roundDiv_le (Nat.two_pow_pos _) (Nat.le_mul_of_pos_right _ (Nat.two_pow_pos _))
      refine isFinite_nearest negative (nearestBits_lt positive ?_)
      have positiveRat : (0 : ℚ) < tenTo places := Nat.cast_pos.mpr positive
      have limit : 2 ^ 53 ≤ overflowLimit := by decide +kernel
      have small : (mantissa : ℚ) < overflowLimit :=
        Nat.cast_lt.mpr ((mantissa_of_finite finite).1.trans_le limit)
      refine lt_of_le_of_lt ?_ small
      rw [div_le_iff₀ positiveRat]
      exact_mod_cast count
  · rfl

end JourneyCost.Decimal
