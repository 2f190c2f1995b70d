import JourneyCost.Json.Token
import JourneyCost.Json.Writer
import Mathlib.Data.List.Basic

/-!
# Texts that are read back

A text is written in quotes with one or two units for each character, and these units are what is
read between the quotes.  A character is never half of a surrogate pair, so the units of a text are
joined to the text again.
-/

namespace JourneyCost.Json

/-- The units in which a character is written. -/
def unitsOf (c : Char) : List Nat :=
  if c.toNat < 0x10000 then [c.toNat]
  else [0xD800 + (c.toNat - 0x10000) / 1024, 0xDC00 + (c.toNat - 0x10000) % 1024]

theorem toNat_lt_or_lt (c : Char) : c.toNat < 0xD800 ∨ 0xDFFF < c.toNat ∧ c.toNat < 0x110000 :=
  c.valid

theorem joinSurrogates_unitsOf (c : Char) (more : List Nat) :
    joinSurrogates (unitsOf c ++ more) = c :: joinSurrogates more := by
  have valid := toNat_lt_or_lt c
  rw [unitsOf]
  split
  · have high : isHighSurrogate c.toNat = false := by
      simp only [isHighSurrogate, Bool.and_eq_false_iff, decide_eq_false_iff_not]
      omega
    have low : isLowSurrogate c.toNat = false := by
      simp only [isLowSurrogate, Bool.and_eq_false_iff, decide_eq_false_iff_not]
      omega
    cases more <;> simp [joinSurrogates, high, low]
  · have high : isHighSurrogate (0xD800 + (c.toNat - 0x10000) / 1024) = true := by
      simp only [isHighSurrogate, Bool.and_eq_true, decide_eq_true_eq]
      omega
    have low : isLowSurrogate (0xDC00 + (c.toNat - 0x10000) % 1024) = true := by
      simp only [isLowSurrogate, Bool.and_eq_true, decide_eq_true_eq]
      omega
    have code : 0x10000 + (0xD800 + (c.toNat - 0x10000) / 1024 - 0xD800) * 1024 +
        (0xDC00 + (c.toNat - 0x10000) % 1024 - 0xDC00) = c.toNat := by omega
    change joinSurrogates (_ :: _ :: more) = _
    rw [joinSurrogates, high, low, code, Char.ofNat_toNat]
    rfl

theorem joinSurrogates_flatMap_unitsOf (cs : List Char) :
    joinSurrogates (cs.flatMap unitsOf) = cs := by
  induction cs with
  | nil => rfl
  | cons c more induction => rw [List.flatMap_cons, joinSurrogates_unitsOf, induction]

theorem hexDigit?_hexChar {n : Nat} (digit : n < 16) : hexDigit? (hexChar n) = some n := by
  have all : ∀ n < 16, hexDigit? (hexChar n) = some n := by decide
  exact all n digit

theorem hexUnit?_hexChar {unit : Nat} (bound : unit < 0x10000) :
    hexUnit? (hexChar (unit / 4096)) (hexChar (unit / 256 % 16)) (hexChar (unit / 16 % 16))
      (hexChar (unit % 16)) = some unit := by
  rw [hexUnit?, hexDigit?_hexChar (by omega), hexDigit?_hexChar (by omega),
    hexDigit?_hexChar (by omega), hexDigit?_hexChar (by omega)]
  refine congrArg some ?_
  omega

theorem tokensFrom_escapeUnit {unit : Nat} (bound : unit < 0x10000) (read : List Nat)
    (rest : List Char) :
    tokensFrom (.quoted read) (escapeUnit unit ++ rest) =
      tokensFrom (.quoted (unit :: read)) rest := by
  simp only [escapeUnit, List.cons_append, List.nil_append]
  rw [tokensFrom, hexUnit?_hexChar bound]

theorem tokensFrom_plain {c : Char} (quote : c ≠ '"') (slash : c ≠ '\\') (printed : 32 ≤ c.toNat)
    (read : List Nat) (rest : List Char) :
    tokensFrom (.quoted read) (c :: rest) = tokensFrom (.quoted (c.toNat :: read)) rest := by
  have control : ¬ (c.toNat < 32 || c == '\\') = true := by simp [slash, printed]
  rw [tokensFrom]
  · rw [if_neg (by simpa using quote), if_neg control]
  · exact fun _ _ _ _ _ same _ => slash same
  · exact fun _ _ same _ => slash same

/-- What is written for a character is read as its units. -/
theorem tokensFrom_escapeChar (c : Char) (read : List Nat) (rest : List Char) :
    tokensFrom (.quoted read) (escapeChar c ++ rest) =
      tokensFrom (.quoted ((unitsOf c).reverse ++ read)) rest := by
  have short {mark : Char} (code : mark.toNat < 0x10000) :
      (unitsOf mark).reverse ++ read = mark.toNat :: read := by
    rw [unitsOf, if_pos code]
    rfl
  have valid := toNat_lt_or_lt c
  simp only [escapeChar, beq_iff_eq]
  split_ifs with quote slash newLine return_ tab back feed printed unit
  case pos | pos | pos | pos | pos | pos | pos =>
    subst_vars
    rw [short (by decide)]
    rfl
  · rw [Bool.and_eq_true, decide_eq_true_iff, decide_eq_true_iff] at printed
    rw [short (by omega)]
    exact tokensFrom_plain quote slash printed.1 read rest
  · rw [short unit]
    exact tokensFrom_escapeUnit unit read rest
  · rw [List.append_assoc, tokensFrom_escapeUnit (by omega), tokensFrom_escapeUnit (by omega),
      unitsOf, if_neg unit]
    rfl

theorem tokensFrom_flatMap_escapeChar (cs : List Char) (read : List Nat) (rest : List Char) :
    tokensFrom (.quoted read) (cs.flatMap escapeChar ++ rest) =
      tokensFrom (.quoted ((cs.flatMap unitsOf).reverse ++ read)) rest := by
  induction cs generalizing read with
  | nil => rfl
  | cons c more induction =>
      rw [List.flatMap_cons, List.append_assoc, tokensFrom_escapeChar, induction,
        List.flatMap_cons, List.reverse_append, List.append_assoc]

theorem tokensFrom_openQuote (rest : List Char) :
    tokensFrom .between ('"' :: rest) = tokensFrom (.quoted []) rest := by
  simp [tokensFrom, punctuation?, isGap, Mode.pending, endsInFault]

theorem tokensFrom_closeQuote (read : List Nat) (rest : List Char) :
    tokensFrom (.quoted read) ('"' :: rest) =
      .quoted (String.ofList (joinSurrogates read.reverse)) :: tokensFrom .between rest := by
  rw [tokensFrom]
  · rfl
  · simp
  · simp

/-- A text in quotes is read as the text. -/
theorem tokensFrom_quote (s : String) (rest : List Char) :
    tokensFrom .between (quote s ++ rest) = .quoted s :: tokensFrom .between rest := by
  rw [quote, List.cons_append, List.cons_append, tokensFrom_openQuote, List.append_assoc,
    tokensFrom_flatMap_escapeChar, List.append_nil, List.singleton_append, tokensFrom_closeQuote,
    List.reverse_reverse, joinSurrogates_flatMap_unitsOf, String.ofList_toList]

end JourneyCost.Json
