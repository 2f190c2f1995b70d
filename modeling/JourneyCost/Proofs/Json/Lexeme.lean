import JourneyCost.Proofs.Decimal.Digits
import JourneyCost.Proofs.Json.Readable

/-!
# Where lexemes come from

A lexeme of a text is a mark of punctuation, a quoted text, a number or name that a text can hold,
or a fault: the text is no document, or an integer has too many digits.
-/

namespace JourneyCost.Json

/-- What a lexeme of a text can be. -/
inductive Token.Occurs : Token → Prop where
  /-- A mark of punctuation. -/
  | mark {token : Token} (c : Char) (here : punctuation? c = some token) : Occurs token
  /-- A quoted text. -/
  | quoted (s : String) : Occurs (.quoted s)
  /-- A number or a name. -/
  | scalar {value : Json} (readable : value.Readable) : Occurs (.scalar value)
  /-- The fault of a text that is no document. -/
  | broken : Occurs (.fault .malformedDocument)
  /-- The fault of an integer with too many digits. -/
  | overlong : Occurs (.fault .malformed)

theorem readable_of_name? {cs : List Char} {value : Json} (named : name? cs = some value) :
    value.Readable := by
  unfold name? at named
  split_ifs at named <;> obtain rfl := Option.some.inj named <;> constructor

theorem isDigit_of_mem_wholePart {cs : List Char} {c : Char} (member : c ∈ (wholePart cs).1) :
    Decimal.isDigit c = true := by
  unfold wholePart at member
  split at member
  · rw [List.mem_singleton.mp member]
    decide
  · exact List.mem_takeWhile_imp member

/-- An integer with as many digits as are allowed is not too long, with or without a sign. -/
theorem readable_int_of_wholePart {cs : List Char}
    (short : ¬ digitLimit < (wholePart cs).1.length) :
    (int (Decimal.ofDigits (wholePart cs).1)).Readable ∧
      (int (-(Decimal.ofDigits (wholePart cs).1 : Int))).Readable := by
  have digits : ∀ c ∈ (wholePart cs).1, Decimal.isDigit c = true := fun _ =>
    isDigit_of_mem_wholePart
  have bound : Decimal.ofDigits (wholePart cs).1 < 10 ^ digitLimit :=
    (Decimal.ofDigits_lt digits).trans_le (Nat.pow_le_pow_right (by decide) (not_lt.mp short))
  exact ⟨.int (by rwa [Int.natAbs_natCast]), .int (by rwa [Int.natAbs_neg, Int.natAbs_natCast])⟩

theorem occurs_of_mem_wordTokens {cs : List Char} {token : Token} (member : token ∈ wordTokens cs) :
    token.Occurs := by
  unfold wordTokens at member
  split at member
  · rename_i value named
    obtain rfl := List.mem_singleton.mp member
    exact .scalar (readable_of_name? named)
  · grind [Token.Occurs, Readable, readable_int_of_wholePart]

theorem occurs_of_mem_pending {mode : Mode} {token : Token} (member : token ∈ mode.pending) :
    token.Occurs := by
  cases mode with
  | word read => exact occurs_of_mem_wordTokens member
  | between | quoted read => exact absurd member (by simp [Mode.pending])

theorem occurs_of_mem_tokensFrom {mode : Mode} {cs : List Char} {token : Token}
    (member : token ∈ tokensFrom mode cs) : token.Occurs := by
  fun_induction tokensFrom mode cs with
  | case1 | case3 | case5 | case7 =>
      obtain rfl := List.mem_singleton.mp member
      exact .broken
  | case9 | case10 | case12 | case14 =>
      exact occurs_of_mem_pending member
  | case11 mode c rest _ _ _ mark here sound induction =>
      rcases List.mem_append.mp member with before | after
      · exact occurs_of_mem_pending before
      · rcases List.mem_cons.mp after with rfl | later
        · exact .mark c here
        · exact induction later
  | case13 _ _ _ _ _ _ _ _ _ induction | case15 _ _ _ _ _ _ _ _ _ _ induction =>
      rcases List.mem_append.mp member with before | after
      · exact occurs_of_mem_pending before
      · exact induction after
  | case6 _ _ _ _ _ _ induction =>
      rcases List.mem_cons.mp member with rfl | later
      · exact .quoted _
      · exact induction later
  | case2 | case4 | case8 | case16 | case17 =>
      rename_i induction
      exact induction member

end JourneyCost.Json
