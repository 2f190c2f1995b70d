import JourneyCost.Decimal.Numeral
import JourneyCost.Decimal.Writing
import JourneyCost.Proofs.Decimal.Shortest

/-!
# Rows of digits

A row of digits is read as the number of which it is written.  The digits of a decimal without their
trailing zeros, and the place of the point, stand for the decimal.
-/

namespace JourneyCost.Decimal

section

variable {cs more : List Char}

theorem ofDigits_eq (cs : List Char) : ofDigits cs = Nat.ofDigitChars 10 cs 0 :=
  Nat.ofDigitChars_eq_foldl.symm

theorem ofDigits_append (cs more : List Char) :
    ofDigits (cs ++ more) = 10 ^ more.length * ofDigits cs + ofDigits more := by
  rw [ofDigits_eq, Nat.ofDigitChars_append, Nat.ofDigitChars_eq_ofDigitChars_zero, ofDigits_eq,
    ofDigits_eq]

theorem ofDigits_zeros (count : Nat) : ofDigits (zeros count) = 0 := by
  rw [ofDigits_eq, zeros, Nat.ofDigitChars_replicate_zero, mul_zero]

theorem ofDigits_toDigits (n : Nat) : ofDigits (Nat.toDigits 10 n) = n := by
  rw [ofDigits_eq, Nat.ofDigitChars_ten_toDigits]

/-- The characters of numerals: digits, signs, a point and the mark of an exponent. -/
def numeralChars : List Char :=
  ['0', '1', '2', '3', '4', '5', '6', '7', '8', '9', '+', '-', '.', 'e', 'E']

theorem mem_numeralChars {c : Char} (digit : isDigit c = true) : c ∈ numeralChars := by
  simp only [isDigit, Bool.and_eq_true, decide_eq_true_eq] at digit
  obtain ⟨least, greatest⟩ := digit
  have low : 48 ≤ c.toNat := least
  have high : c.toNat ≤ 57 := greatest
  rw [← Char.ofNat_toNat c]
  interval_cases c.toNat <;> decide

theorem isDigit_of_mem_toDigits {n : Nat} {c : Char} (member : c ∈ Nat.toDigits 10 n) :
    isDigit c = true :=
  Nat.isDigit_of_mem_toDigits (by decide) (by decide) member

theorem isDigit_of_mem_zeros {count : Nat} {c : Char} (member : c ∈ zeros count) :
    isDigit c = true := by
  rw [List.eq_of_mem_replicate member]
  decide

theorem ofDigits_lt (digits : ∀ c ∈ cs, isDigit c = true) : ofDigits cs < 10 ^ cs.length := by
  induction cs with
  | nil => decide
  | cons c more induction =>
      obtain ⟨here, others⟩ := List.forall_mem_cons.mp digits
      have digit : ofDigits [c] ≤ 9 := by
        simp only [isDigit, Bool.and_eq_true, decide_eq_true_eq] at here
        have bound : c.toNat ≤ '9'.toNat := here.2
        have nine : '9'.toNat = 57 := rfl
        change 10 * 0 + (c.toNat - 48) ≤ 9
        omega
      have rest := induction others
      rw [← List.singleton_append, ofDigits_append, List.length_append, List.length_singleton,
        pow_add]
      nlinarith [Nat.pow_pos (n := more.length) (show 0 < 10 by decide)]

end

/-- Digits of which the first is another one than zero. -/
structure IsSignificant (cs : List Char) : Prop where
  /-- All are digits. -/
  digits : ∀ c ∈ cs, isDigit c = true
  /-- The first is not zero. -/
  first : ∃ first more, cs = first :: more ∧ first ≠ '0'

section

variable {digits : List Char} (significant : IsSignificant digits)

include significant

theorem IsSignificant.take {count : Nat} (some_ : count ≠ 0) :
    IsSignificant (digits.take count) where
  digits c member := significant.digits c (List.mem_of_mem_take member)
  first := by
    obtain ⟨first, more, rfl, nonzero⟩ := significant.first
    obtain ⟨less, rfl⟩ := Nat.exists_eq_succ_of_ne_zero some_
    exact ⟨first, more.take less, rfl, nonzero⟩

theorem IsSignificant.append_zeros (count : Nat) : IsSignificant (digits ++ zeros count) where
  digits c member := (List.mem_append.mp member).elim (significant.digits c) isDigit_of_mem_zeros
  first := by
    obtain ⟨first, more, rfl, nonzero⟩ := significant.first
    exact ⟨first, more ++ zeros count, rfl, nonzero⟩

end

theorem isSignificant_toDigits {n : Nat} (positive : 0 < n) :
    IsSignificant (Nat.toDigits 10 n) where
  digits _ := isDigit_of_mem_toDigits
  first := by
    cases written : Nat.toDigits 10 n with
    | nil => exact absurd written Nat.toDigits_ne_nil
    | cons first more =>
        refine ⟨first, more, rfl, ?_⟩
        rintro rfl
        have least := ten_pow_le_of_pos positive
        have value := ofDigits_toDigits n
        have others : ofDigits more < 10 ^ more.length := ofDigits_lt fun c member =>
          isDigit_of_mem_toDigits (written ▸ List.mem_cons_of_mem _ member)
        have zero : ofDigits ['0'] = 0 := rfl
        rw [written, ← List.singleton_append, ofDigits_append, zero, mul_zero, zero_add] at value
        rw [digitCount, written, List.length_cons, Nat.add_sub_cancel] at least
        omega

/-- Digits without their trailing zeros, and these zeros. -/
theorem exists_zeros (row : List Char) :
    ∃ dropped, row = (row.reverse.dropWhile (· == '0')).reverse ++ zeros dropped := by
  have zero : ∀ c ∈ row.reverse.takeWhile (· == '0'), c = '0' :=
    fun c member => by simpa using List.mem_takeWhile_imp member
  refine ⟨(row.reverse.takeWhile (· == '0')).length, ?_⟩
  rw [zeros, ← List.reverse_replicate, ← List.eq_replicate_of_mem zero, ← List.reverse_append,
    List.takeWhile_append_dropWhile, List.reverse_reverse]

/-- The significant digits of a decimal with the place of its point stand for the decimal. -/
theorem isSignificant_significant {decimal : Scaled} (positive : 0 < decimal.digits) :
    IsSignificant (significant decimal).1 ∧
      decimal.toRat = ofDigits (significant decimal).1 *
        10 ^ ((significant decimal).2 - ((significant decimal).1.length : ℤ)) := by
  obtain ⟨dropped, split⟩ := exists_zeros (Nat.toDigits 10 decimal.digits)
  obtain ⟨digits, first, more, written, nonzero⟩ := isSignificant_toDigits positive
  have whole := ofDigits_toDigits decimal.digits
  have place : (significant decimal).2 =
      decimal.scale + (Nat.toDigits 10 decimal.digits).length := rfl
  rw [place]
  change IsSignificant (List.reverse _) ∧ _ = ((ofDigits (List.reverse _) : ℕ) : ℚ) *
    10 ^ (_ - (List.length (List.reverse _) : ℤ))
  set row := Nat.toDigits 10 decimal.digits
  set kept := (row.reverse.dropWhile (· == '0')).reverse
  have value : decimal.digits = 10 ^ dropped * ofDigits kept := by
    rw [← whole, split, ofDigits_append, ofDigits_zeros, add_zero, zeros, List.length_replicate]
  have length : (row.length : ℤ) = kept.length + dropped := by
    rw [split, List.length_append, zeros, List.length_replicate, Nat.cast_add]
  refine ⟨⟨fun c member => digits c (split ▸ List.mem_append_left _ member), ?_⟩, ?_⟩
  · cases same : kept with
    | nil =>
        rw [same] at value
        exact absurd value (by simp [ofDigits, positive.ne'])
    | cons c others =>
        rw [same, List.cons_append, written] at split
        exact ⟨c, others, rfl, (List.cons.inj split).1 ▸ nonzero⟩
  · rw [Scaled.toRat, value, length, Nat.cast_mul, Nat.cast_pow, Nat.cast_ofNat]
    have exponent : decimal.scale + ((kept.length : ℤ) + dropped) - kept.length =
        dropped + decimal.scale := by ring
    rw [exponent, zpow_add₀ ten_ne_zero, zpow_natCast]
    ring

end JourneyCost.Decimal
