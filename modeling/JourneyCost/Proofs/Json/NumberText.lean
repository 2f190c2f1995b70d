import JourneyCost.Json.Token
import JourneyCost.Json.Writer
import JourneyCost.Proofs.Decimal.Digits
import JourneyCost.Proofs.Decimal.RoundTrip

/-!
# Numbers as words of a document

The text of a number falls into a whole part, a fraction and an exponent, and these stand for the
number.  So the lexeme of the word is the number that was written.
-/

namespace JourneyCost.Json

open Decimal

section

variable {cs rest digits : List Char}

theorem noDigit_nil : ∀ c ∈ ([] : List Char).head?, isDigit c = false := by simp

theorem span_digits (all : ∀ c ∈ cs, isDigit c = true)
    (ends : ∀ c ∈ rest.head?, isDigit c = false) :
    (cs ++ rest).takeWhile isDigit = cs ∧ (cs ++ rest).dropWhile isDigit = rest := by
  have stops : rest.takeWhile isDigit = [] ∧ rest.dropWhile isDigit = rest := by
    cases rest with
    | nil => exact ⟨rfl, rfl⟩
    | cons c more =>
        have other := ends c rfl
        exact ⟨List.takeWhile_cons_of_neg (by simp [other]),
          List.dropWhile_cons_of_neg (by simp [other])⟩
  rw [List.takeWhile_append_of_pos all, List.dropWhile_append_of_pos all, stops.1, stops.2,
    List.append_nil]
  exact ⟨rfl, rfl⟩

/-- How the whole part of a number begins. -/
def BeginsNumber (whole : List Char) : Prop := whole = ['0'] ∨ IsSignificant whole

theorem BeginsNumber.first (begins : BeginsNumber cs) :
    ∃ first more, cs = first :: more ∧ isDigit first = true := by
  rcases begins with rfl | significant
  · exact ⟨'0', [], rfl, by decide⟩
  · obtain ⟨first, more, rfl, -⟩ := significant.first
    exact ⟨first, more, rfl, significant.digits first List.mem_cons_self⟩

theorem BeginsNumber.all (begins : BeginsNumber cs) : ∀ c ∈ cs, isDigit c = true := by
  rcases begins with rfl | significant
  · exact List.forall_mem_singleton.mpr rfl
  · exact significant.digits

theorem wholePart_append (begins : BeginsNumber cs)
    (ends : ∀ c ∈ rest.head?, isDigit c = false) : wholePart (cs ++ rest) = (cs, rest) := by
  rcases begins with rfl | significant
  · rfl
  · obtain ⟨taken, dropped⟩ := span_digits significant.digits ends
    obtain ⟨first, more, rfl, nonzero⟩ := significant.first
    unfold wholePart
    split
    · rename_i same
      exact absurd (List.cons.inj same).1 nonzero
    · rw [taken, dropped]

/-- The digits after a point, with the point if there are any. -/
def pointed (fraction : List Char) : List Char :=
  if fraction.isEmpty then [] else '.' :: fraction

theorem fractionPart_pointed (all : ∀ c ∈ cs, isDigit c = true)
    (ends : ∀ c ∈ rest.head?, isDigit c = false ∧ c ≠ '.') :
    fractionPart (pointed cs ++ rest) = (cs, rest) := by
  cases empty : cs.isEmpty with
  | true =>
      obtain rfl := List.isEmpty_iff.mp empty
      change fractionPart rest = _
      unfold fractionPart
      split
      · exact absurd rfl (ends '.' rfl).2
      · rfl
  | false =>
      obtain ⟨taken, dropped⟩ := span_digits all fun c member => (ends c member).1
      simp [pointed, fractionPart, empty, taken, dropped]

theorem exponentPart_digits (negative : Bool) (all : ∀ c ∈ digits, isDigit c = true)
    (nonempty : digits ≠ []) :
    exponentPart ('e' :: (if negative then '-' else '+') :: digits) =
      (some (if negative then -(ofDigits digits : Int) else ofDigits digits), []) := by
  obtain ⟨taken, dropped⟩ := span_digits all noDigit_nil
  rw [List.append_nil] at taken dropped
  have present : digits.isEmpty = false := by simpa using nonempty
  cases negative <;>
    simp [exponentPart, splitSign, taken, dropped, present]

end

/-- Whether a character is none that ends a word. -/
def isWordChar (c : Char) : Bool := (punctuation? c).isNone && !isGap c && c != '"'

theorem isWordChar_of_mem : ∀ c ∈ numeralChars, isWordChar c = true :=
  List.all_eq_true.mp rfl

/-- The text of an exponent, and no text if there is none. -/
inductive ExponentText : List Char → Option Int → Prop where
  /-- No exponent. -/
  | missing : ExponentText [] none
  /-- A sign and digits. -/
  | signed (negative : Bool) {digits : List Char} (all : ∀ c ∈ digits, isDigit c = true)
      (nonempty : digits ≠ []) :
      ExponentText ('e' :: (if negative then '-' else '+') :: digits)
        (some (if negative then -(ofDigits digits : Int) else ofDigits digits))

namespace ExponentText

variable {tail : List Char} {exponent : Option Int}

theorem exponentPart_eq (text : ExponentText tail exponent) :
    exponentPart tail = (exponent, []) := by
  cases text with
  | missing => rfl
  | signed negative all nonempty => exact exponentPart_digits negative all nonempty

theorem ends (text : ExponentText tail exponent) :
    ∀ c ∈ tail.head?, isDigit c = false ∧ c ≠ '.' := by
  cases text with
  | missing => simp
  | signed negative all nonempty => simp [isDigit]

theorem chars (text : ExponentText tail exponent) : ∀ c ∈ tail, c ∈ numeralChars := by
  cases text with
  | missing => exact List.forall_mem_nil _
  | signed negative all nonempty =>
      refine List.forall_mem_cons.mpr ⟨by decide, List.forall_mem_cons.mpr ⟨?_, ?_⟩⟩
      · split <;> decide
      · exact fun c member => mem_numeralChars (all c member)

end ExponentText

/-- An unsigned text with a point or an exponent, and the decimal that it stands for. -/
inductive Spells : List Char → Scaled → Prop where
  /-- Digits, perhaps a point with digits after it, and perhaps an exponent. -/
  | parts {whole fraction tail : List Char} {exponent : Option Int} (begins : BeginsNumber whole)
      (digits : ∀ c ∈ fraction, isDigit c = true) (text : ExponentText tail exponent)
      (marked : (fraction.isEmpty && exponent.isNone) = false) :
      Spells (whole ++ (pointed fraction ++ tail))
        ⟨ofDigits (whole ++ fraction), exponent.getD 0 - fraction.length⟩

theorem head?_pointed {fraction tail : List Char}
    (ends : ∀ c ∈ tail.head?, isDigit c = false ∧ c ≠ '.') :
    ∀ c ∈ (pointed fraction ++ tail).head?, isDigit c = false := by
  unfold pointed
  split
  · exact fun c member => (ends c member).1
  · simp [isDigit]

theorem Spells.first {cs : List Char} {decimal : Scaled} (spells : Spells cs decimal) :
    ∃ first more, cs = first :: more ∧ isDigit first = true := by
  obtain ⟨begins, -, -, -⟩ := spells
  obtain ⟨first, more, rfl, digit⟩ := begins.first
  exact ⟨first, _, rfl, digit⟩

theorem Spells.chars {cs : List Char} {decimal : Scaled} (spells : Spells cs decimal) :
    ∀ c ∈ cs, c ∈ numeralChars := by
  obtain ⟨begins, digits, text, -⟩ := spells
  intro c member
  rcases List.mem_append.mp member with inWhole | member
  · exact mem_numeralChars (begins.all c inWhole)
  rcases List.mem_append.mp member with inFraction | inTail
  · unfold pointed at inFraction
    split at inFraction
    · cases inFraction
    · rcases List.mem_cons.mp inFraction with rfl | inside
      · decide
      · exact mem_numeralChars (digits c inside)
  · exact text.chars c inTail

theorem name?_of_isDigit {first : Char} (more : List Char) (digit : isDigit first = true) :
    name? (first :: more) = none ∧ name? ('-' :: first :: more) = none := by
  have mark : ∀ other : Char, isDigit other = false → first ≠ other := by
    rintro other no rfl
    exact absurd digit (by simp [no])
  simp [name?, mark 'n' rfl, mark 't' rfl, mark 'f' rfl, mark 'N' rfl, mark 'I' rfl, mark '-' rfl]

/-- A word that falls into parts, and its sign. -/
theorem wordTokens_of_parts {cs whole afterWhole fraction afterFraction : List Char}
    {exponent : Option Int} (begins : ∃ first more, cs = first :: more ∧ isDigit first = true)
    (wholeIs : wholePart cs = (whole, afterWhole)) (nonempty : whole.isEmpty = false)
    (fractionIs : fractionPart afterWhole = (fraction, afterFraction))
    (exponentIs : exponentPart afterFraction = (exponent, [])) (negative : Bool) :
    wordTokens (if negative then '-' :: cs else cs) =
      if fraction.isEmpty && exponent.isNone then
        if digitLimit < whole.length then [.fault .malformed]
        else [.scalar (int (if negative then -(ofDigits whole : Int) else ofDigits whole))]
      else [.scalar (float (Numeral.mk negative (ofDigits (whole ++ fraction))
        (exponent.getD 0 - fraction.length)).toFloat)] := by
  obtain ⟨first, more, rfl, digit⟩ := begins
  have other : first ≠ '-' := by
    rintro rfl
    exact absurd digit (by decide)
  obtain ⟨unnamed, unnamedSigned⟩ := name?_of_isDigit more digit
  cases negative with
  | true =>
      change wordTokens ('-' :: first :: more) = _
      rw [wordTokens, unnamedSigned]
      simp only [wholeIs, fractionIs, exponentIs, nonempty]
      rfl
  | false =>
      change wordTokens (first :: more) = _
      rw [wordTokens, unnamed]
      · simp only [wholeIs, fractionIs, exponentIs, nonempty]
        rfl
      · exact fun rest same => other (List.cons.inj same).1

/-- A word that falls into the parts of a decimal is a number. -/
theorem wordTokens_of_spells {cs : List Char} {decimal : Scaled} (spells : Spells cs decimal)
    (negative : Bool) :
    wordTokens (if negative then '-' :: cs else cs) =
      [.scalar (float (Numeral.mk negative decimal.digits decimal.scale).toFloat)] := by
  have first := spells.first
  obtain ⟨begins, digits, text, marked⟩ := spells
  obtain ⟨_, _, rfl, -⟩ := begins.first
  rw [wordTokens_of_parts first (wholePart_append begins (head?_pointed text.ends)) rfl
    (fractionPart_pointed digits text.ends) text.exponentPart_eq, marked,
    if_neg Bool.false_ne_true]

/-! ## Notations of a float -/

theorem ne_nil_of_isSignificant {digits : List Char} (significant : IsSignificant digits) :
    digits ≠ [] := by
  obtain ⟨first, more, rfl, -⟩ := significant.first
  exact List.cons_ne_nil _ _

section

variable {digits : List Char} (significant : IsSignificant digits)

include significant

theorem spells_positional (place : Int) :
    ∃ decimal, Spells (positional digits place) decimal ∧
      decimal.toRat = ofDigits digits * 10 ^ (place - digits.length) := by
  have nonempty := ne_nil_of_isSignificant significant
  unfold positional
  split
  · rename_i small
    have all : ∀ c ∈ zeros (-place).toNat ++ digits, isDigit c = true := fun c member =>
      (List.mem_append.mp member).elim isDigit_of_mem_zeros (significant.digits c)
    have text : ['0'] ++ (pointed (zeros (-place).toNat ++ digits) ++ []) =
        '0' :: '.' :: zeros (-place).toNat ++ digits := by simp [pointed, nonempty]
    refine ⟨_, text ▸ Spells.parts (.inl rfl) all .missing (by simp [nonempty]), ?_⟩
    have value : ofDigits (['0'] ++ (zeros (-place).toNat ++ digits)) = ofDigits digits := by
      rw [ofDigits_append, ofDigits_append, ofDigits_zeros]
      simp [ofDigits]
    have scale : (none : Option Int).getD 0 - ((zeros (-place).toNat ++ digits).length : Int) =
        place - digits.length := by
      rw [List.length_append, zeros, List.length_replicate, Option.getD_none]
      omega
    rw [Scaled.toRat, value, scale]
  · rename_i large
    simp only
    split
    · rename_i long
      have text : (digits ++ zeros (place.toNat - digits.length)) ++ (pointed ['0'] ++ []) =
          digits ++ zeros (place.toNat - digits.length) ++ ['.', '0'] := rfl
      refine ⟨_, text ▸ Spells.parts (.inr (significant.append_zeros _))
        (List.forall_mem_singleton.mpr rfl) .missing rfl, ?_⟩
      have value : ofDigits (digits ++ zeros (place.toNat - digits.length) ++ ['0']) =
          10 * (10 ^ (place.toNat - digits.length) * ofDigits digits) := by
        rw [ofDigits_append, ofDigits_append, ofDigits_zeros, zeros, List.length_replicate]
        rfl
      have scale : place - digits.length = ((place.toNat - digits.length : ℕ) : ℤ) := by omega
      rw [Scaled.toRat, value, scale, zpow_natCast]
      push_cast
      rw [Option.getD_none]
      norm_num
      ring
    · rename_i short
      have some_ : place.toNat ≠ 0 := by omega
      have rest : (digits.drop place.toNat).isEmpty = false := by
        simpa using Nat.lt_of_not_le short
      have text : digits.take place.toNat ++ (pointed (digits.drop place.toNat) ++ []) =
          digits.take place.toNat ++ '.' :: digits.drop place.toNat := by simp [pointed, rest]
      refine ⟨_, text ▸ Spells.parts (.inr (significant.take some_))
        (fun c member => significant.digits c (List.mem_of_mem_drop member)) .missing
        (by simp [rest]), ?_⟩
      have scale : (none : Option Int).getD 0 - ((digits.drop place.toNat).length : Int) =
          place - digits.length := by
        rw [List.length_drop, Option.getD_none]
        omega
      rw [Scaled.toRat, List.take_append_drop, scale]

theorem spells_scientific (place : Int) :
    ∃ decimal, Spells (Style.document.scientific digits place) decimal ∧
      decimal.toRat = ofDigits digits * 10 ^ (place - digits.length) := by
  obtain ⟨first, more, rfl, nonzero⟩ := significant.first
  have begins : BeginsNumber [first] := .inr
    ⟨fun c member => significant.digits c (List.mem_singleton.mp member ▸ List.mem_cons_self),
      first, [], rfl, nonzero⟩
  have all : ∀ c ∈ more, isDigit c = true := fun c member =>
    significant.digits c (List.mem_cons_of_mem _ member)
  set size := padLeft 2 (Nat.toDigits 10 (place - 1).natAbs) with sizeIs
  have sizeDigits : ∀ c ∈ size, isDigit c = true := fun c member =>
    (List.mem_append.mp member).elim isDigit_of_mem_zeros isDigit_of_mem_toDigits
  have sizeNonempty : size ≠ [] := by simp [sizeIs, padLeft, Nat.toDigits_ne_nil]
  have sizeValue : ofDigits size = (place - 1).natAbs := by
    rw [sizeIs, padLeft, ofDigits_append, ofDigits_zeros, ofDigits_toDigits, mul_zero, zero_add]
  have sizeText := ExponentText.signed (decide (place - 1 < 0)) sizeDigits sizeNonempty
  have exponent : (if decide (place - 1 < 0) = true then -(ofDigits size : Int)
      else ofDigits size) = place - 1 := by
    rw [sizeValue]
    split <;> rename_i sign <;> simp at sign <;> omega
  rw [exponent] at sizeText
  have text : [first] ++ (pointed more ++
      ('e' :: (if decide (place - 1 < 0) = true then '-' else '+') :: size)) =
      Style.document.scientific (first :: more) place := by
    have sign : (if place - 1 < 0 then ['-'] else Style.document.plus.toList) =
        [if decide (place - 1 < 0) = true then '-' else '+'] := by
      by_cases below : place - 1 < 0
      · simp [below]
      · simp [below]
        rfl
    have width : Style.document.exponentDigits = 2 := rfl
    simp only [Style.scientific, sign, width, ← sizeIs]
    cases more <;> simp [pointed]
  refine ⟨_, text ▸ Spells.parts begins all sizeText (by simp), ?_⟩
  have scale : (some (place - 1)).getD 0 - (more.length : Int) =
      place - (first :: more).length := by
    rw [Option.getD_some, List.length_cons]
    push_cast
    ring
  rw [Scaled.toRat, List.singleton_append, scale]

end

theorem spells_magnitude {mantissa : Nat} {exponent : Int} (float : IsFloat mantissa exponent) :
    ∃ decimal, Spells (Style.document.magnitude mantissa exponent) decimal ∧
      decimal.toRat = (shortest mantissa exponent).toRat := by
  have positive := (place_of_roundsTo float (roundsTo_shortest float)).1
  obtain ⟨significant, value⟩ := isSignificant_significant positive
  have nonzero : (mantissa == 0) = false := beq_false_of_ne float.positive.ne'
  rw [Style.magnitude, nonzero, if_neg Bool.false_ne_true, value]
  simp only
  split
  · exact spells_positional significant _
  · exact spells_scientific significant _

theorem spells_zero : Spells ['0', '.', '0'] ⟨0, -1⟩ :=
  @Spells.parts _ ['0'] _ _ (.inl rfl) (List.forall_mem_singleton.mpr rfl) .missing rfl

/-- The text of a finite float without its sign is one for a decimal that is read as the float. -/
theorem exists_spells_of_finite {x : Float} {negative : Bool} {mantissa : Nat} {exponent : Int}
    (finite : Binary.ofFloat x = .finite negative mantissa exponent) :
    ∃ decimal, Spells (Style.document.magnitude mantissa exponent) decimal ∧
      (Numeral.mk negative decimal.digits decimal.scale).toFloat = x := by
  rcases Nat.eq_zero_or_pos mantissa with rfl | positive
  · exact ⟨_, spells_zero, toFloat_of_zero finite rfl (-1)⟩
  · have float := isFloat_of_finite finite positive
    obtain ⟨decimal, spells, value⟩ := spells_magnitude float
    exact ⟨decimal, spells, toFloat_of_roundsTo finite positive
      (value ▸ roundsTo_shortest float)⟩

/-- What a word in a document has to be: not empty, and without a character that ends a word. -/
structure IsWord (cs : List Char) : Prop where
  /-- There is a character. -/
  nonempty : cs ≠ []
  /-- No character ends a word. -/
  chars : ∀ c ∈ cs, isWordChar c = true

theorem isWord_signed {cs : List Char}
    (begins : ∃ first more, cs = first :: more ∧ isDigit first = true)
    (chars : ∀ c ∈ cs, c ∈ numeralChars) (negative : Bool) :
    IsWord (if negative then '-' :: cs else cs) := by
  obtain ⟨first, more, same, -⟩ := begins
  have word : ∀ c ∈ cs, isWordChar c = true := fun c member => isWordChar_of_mem c (chars c member)
  cases negative with
  | true => exact ⟨List.cons_ne_nil _ _, List.forall_mem_cons.mpr ⟨rfl, word⟩⟩
  | false => exact ⟨same ▸ List.cons_ne_nil _ _, word⟩

/-- A float is written in a word of which the lexeme is the float. -/
theorem wordTokens_write (x : Float) : IsWord (Style.document.write x).toList ∧
    wordTokens (Style.document.write x).toList = [.scalar (float x)] := by
  rw [Style.write]
  cases parts : Binary.ofFloat x with
  | undefined =>
      obtain rfl := eq_undefinedFloat_of_undefined parts
      exact ⟨⟨List.cons_ne_nil _ _, List.all_eq_true.mp rfl⟩, rfl⟩
  | infinite negative =>
      obtain rfl := eq_infinity_of_infinite parts
      cases negative <;> exact ⟨⟨List.cons_ne_nil _ _, List.all_eq_true.mp rfl⟩, rfl⟩
  | finite negative mantissa exponent =>
      obtain ⟨decimal, spells, read⟩ := exists_spells_of_finite parts
      have word := isWord_signed spells.first spells.chars negative
      have tokens := wordTokens_of_spells spells negative
      rw [read] at tokens
      simpa using ⟨word, tokens⟩

/-- An integer is written in a word of which the lexeme is the integer. -/
theorem wordTokens_intText {n : Int} (short : n.natAbs < 10 ^ digitLimit) :
    IsWord (intText n) ∧ wordTokens (intText n) = [.scalar (int n)] := by
  set digits := Nat.toDigits 10 n.natAbs with digitsAre
  have begins : BeginsNumber digits := by
    rcases Nat.eq_zero_or_pos n.natAbs with zero | positive
    · exact .inl (by rw [digitsAre, zero, Nat.toDigits_zero])
    · exact .inr (isSignificant_toDigits positive)
  have length : ¬ digitLimit < digits.length := by
    rw [not_lt]
    exact (Nat.length_toDigits_le_iff (by decide) (by decide)).mpr short
  have wholeIs : wholePart digits = (digits, []) := by
    have parts := wholePart_append begins noDigit_nil
    rwa [List.append_nil] at parts
  have nonempty : digits.isEmpty = false := by simp [digitsAre, Nat.toDigits_ne_nil]
  have value :
      (if decide (n < 0) = true then -(ofDigits digits : Int) else ofDigits digits) = n := by
    rw [digitsAre, ofDigits_toDigits]
    split <;> rename_i sign <;> simp at sign <;> omega
  have text : intText n = if decide (n < 0) = true then '-' :: digits else digits := by
    simp [intText, digitsAre]
  rw [text]
  refine ⟨isWord_signed begins.first
    (fun c member => mem_numeralChars (begins.all c member)) _, ?_⟩
  rw [wordTokens_of_parts begins.first wholeIs nonempty rfl rfl, value]
  simp [length]

end JourneyCost.Json
