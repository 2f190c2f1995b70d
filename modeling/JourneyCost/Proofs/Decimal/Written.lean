import JourneyCost.Proofs.Decimal.Finite
import JourneyCost.Proofs.Json.NumberText

/-!
# Number texts that are read back

The text of a finite float as it stands in reports and names is a number text that is read as the
same float.  All its characters are digits, signs, a point or the mark of an exponent, so nothing is
trimmed, translated or left out of it.
-/

namespace JourneyCost.Decimal

open Json (ExponentText Spells head?_pointed pointed span_digits)

theorem isSpacing_of_mem : ∀ c ∈ numeralChars, Text.isSpacing c = false := by
  simp [numeralChars, Text.isSpacing, Text.isBlank]

theorem isBlank_of_mem : ∀ c ∈ numeralChars, Text.isBlank c = false := by
  simp [numeralChars, Text.isBlank]

/-- The digits of all other scripts have greater codes. -/
theorem toLatinDigit_of_lt {c : Char} (small : c.toNat < 1632) : Text.toLatinDigit c = c := by
  have others : ∀ first ∈ Text.zeroCodes.tail, 1632 ≤ first := by decide
  have codes : Text.zeroCodes = 48 :: Text.zeroCodes.tail := rfl
  rw [Text.toLatinDigit, Text.digitValue?, codes, List.find?_cons]
  cases basic : (decide (48 ≤ c.toNat) && decide (c.toNat < 48 + 10)) with
  | true =>
      have least : 48 ≤ c.toNat := by simp at basic; omega
      simp only [Option.map_some, Nat.add_sub_cancel' least, Char.ofNat_toNat]
  | false =>
      have none : Text.zeroCodes.tail.find?
          (fun first => decide (first ≤ c.toNat) && decide (c.toNat < first + 10)) = none := by
        refine List.find?_eq_none.mpr fun first member => ?_
        have later := others first member
        simp
        omega
      simp only [none, Option.map_none]

theorem toLatinDigit_of_mem : ∀ c ∈ numeralChars, Text.toLatinDigit c = c := by
  have small : ∀ c ∈ numeralChars, c.toNat < 1632 := by simp [numeralChars]
  exact fun c member => toLatinDigit_of_lt (small c member)

theorem not_mem_of_chars {cs : List Char} (chars : ∀ c ∈ cs, c ∈ numeralChars) {other : Char}
    (foreign : other ∉ numeralChars) : other ∉ cs := fun member => foreign (chars other member)

/-- Nothing is trimmed from a text without a member of the class. -/
theorem trimmed_eq_self {p : Char → Bool} {cs : List Char} (none : ∀ c ∈ cs, p c = false) :
    Text.trimmed p cs = cs := by
  have keeps : ∀ rest : List Char, (∀ c ∈ rest, p c = false) → rest.dropWhile p = rest :=
    fun rest outside => List.dropWhile_eq_self_iff.mpr fun inhabited => by
      simp [outside _ (List.getElem_mem inhabited)]
  rw [Text.trimmed, keeps cs none, keeps cs.reverse (by simpa using none), List.reverse_reverse]

theorem dropLowLines?_eq_some {before : Char} {cs : List Char} (begun : before ≠ '_')
    (none : '_' ∉ cs) : dropLowLines? before cs = some cs := by
  induction cs generalizing before with
  | nil => simp [dropLowLines?, begun]
  | cons c rest induction =>
      rw [List.mem_cons, not_or] at none
      obtain ⟨here, later⟩ := none
      simp [dropLowLines?, Ne.symm here, begun, induction (Ne.symm here) later]

theorem word?_of_isDigit {first : Char} (negative : Bool) (more : List Char)
    (digit : isDigit first = true) : word? negative (first :: more) = none := by
  have small : first.toLower ≠ 'i' ∧ first.toLower ≠ 'n' := by
    have all : ∀ c ∈ numeralChars, c.toLower ≠ 'i' ∧ c.toLower ≠ 'n' := by simp [numeralChars]
    exact all first (mem_numeralChars digit)
  simp [word?, small]

theorem scaleSuffix?_of_exponentText {tail : List Char} {exponent : Option Int}
    (text : ExponentText tail exponent) : scaleSuffix? tail = some (exponent.getD 0) := by
  cases text with
  | missing => rfl
  | signed negative all nonempty =>
      cases negative <;> simpa [scaleSuffix?, exponent?, splitSign, nonempty] using all

theorem unsigned?_of_spells {cs : List Char} {decimal : Scaled} (spells : Spells cs decimal)
    (negative : Bool) :
    unsigned? negative cs = some ⟨negative, decimal.digits, decimal.scale⟩ := by
  obtain @⟨whole, fraction, tail, exponent, begins, digits, text, -⟩ := spells
  obtain ⟨taken, dropped⟩ := span_digits begins.all (@head?_pointed fraction _ text.ends)
  obtain ⟨first, more, rfl, -⟩ := begins.first
  have scale := scaleSuffix?_of_exponentText text
  rw [unsigned?, taken, dropped]
  cases fraction with
  | nil =>
      cases text with
      | missing => simp [pointed, scaleSuffix?]
      | signed sign all nonempty => simp [pointed, scale]
  | cons digit later =>
      obtain ⟨taken, dropped⟩ := span_digits digits fun c member => (text.ends c member).1
      rw [List.cons_append] at taken dropped
      simp [pointed, taken, dropped, scale]

section

variable {cs : List Char} {decimal : Scaled} (spells : Spells cs decimal) (negative : Bool)

include spells

theorem signed_chars : ∀ c ∈ if negative then '-' :: cs else cs, c ∈ numeralChars := by
  split
  · exact List.forall_mem_cons.mpr ⟨by decide, spells.chars⟩
  · exact spells.chars

theorem signedFloat?_of_spells : signedFloat? (if negative then '-' :: cs else cs) =
    some (Numeral.mk negative decimal.digits decimal.scale).toFloat := by
  obtain ⟨first, more, rfl, digit⟩ := spells.first
  have split : splitSign (if negative then '-' :: first :: more else first :: more) =
      (negative, first :: more) := by
    cases negative with
    | true => rfl
    | false =>
        rw [if_neg Bool.false_ne_true]
        unfold splitSign
        split
        · rename_i same
          exact absurd ((List.cons.inj same).1 ▸ digit) (by decide)
        · rename_i same
          exact absurd ((List.cons.inj same).1 ▸ digit) (by decide)
        · rfl
  rw [signedFloat?, split]
  simp only [word?_of_isDigit negative more digit, unsigned?_of_spells spells, Option.map_some]

/-- A number text with basic digits is read as it stands. -/
theorem readFloat?_of_spells :
    readFloat? (String.ofList (if negative then '-' :: cs else cs)) =
      some (Numeral.mk negative decimal.digits decimal.scale).toFloat := by
  have chars := signed_chars spells negative
  have latin := (List.map_congr_left fun c member => toLatinDigit_of_mem c (chars c member)).trans
    (List.map_id' _)
  have whole := dropLowLines?_eq_some (by decide : ' ' ≠ '_') (not_mem_of_chars chars (by decide))
  rw [readFloat?, String.toList_ofList,
    trimmed_eq_self fun c member => isBlank_of_mem c (chars c member), latin, whole]
  exact signedFloat?_of_spells spells negative

end

section

variable {x : Float} (finite : x.isFinite = true)

include finite

theorem exists_spells_write : ∃ negative cs decimal,
    Style.plain.write x = String.ofList (if negative then '-' :: cs else cs) ∧
      Spells cs decimal ∧ (Numeral.mk negative decimal.digits decimal.scale).toFloat = x := by
  obtain ⟨negative, mantissa, exponent, parts⟩ := isFinite_iff_ofFloat.mp finite
  obtain ⟨decimal, spells, read⟩ := Json.exists_spells_of_finite parts
  refine ⟨negative, _, decimal, ?_, spells, read⟩
  rw [Style.write, parts]
  rfl

theorem mem_numeralChars_write : ∀ c ∈ (Style.plain.write x).toList, c ∈ numeralChars := by
  obtain ⟨negative, cs, decimal, written, spells, -⟩ := exists_spells_write finite
  rw [written, String.toList_ofList]
  exact signed_chars spells negative

/-- A finite float is read from its text. -/
theorem readFloat?_write : readFloat? (Style.plain.write x) = some x := by
  obtain ⟨negative, cs, decimal, written, spells, read⟩ := exists_spells_write finite
  rw [written, readFloat?_of_spells spells, read]

end

end JourneyCost.Decimal
