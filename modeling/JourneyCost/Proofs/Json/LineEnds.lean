import JourneyCost.Json.Reader
import JourneyCost.Text.LineEnd

/-!
# Line ends in documents

Between lexemes one line end is as good as another, and inside a quoted text each of them is a
fault.  So a document is read alike whatever its lines end with.
-/

namespace JourneyCost.Json

open Text (plainLineEnds plainLines)

variable {cs rest : List Char} {c : Char} {unit : Nat}

theorem plainLineEnds_cons (other : c ≠ '\r') :
    plainLineEnds (c :: rest) = c :: plainLineEnds rest := by
  rw [plainLineEnds]
  · exact fun _ same _ => other same
  · exact fun same => other same

theorem exists_of_plainLineEnds_eq_cons (same : plainLineEnds cs = c :: rest) (other : c ≠ '\n') :
    ∃ more, cs = c :: more ∧ plainLineEnds more = rest := by
  unfold plainLineEnds at same
  split at same
  · exact absurd (List.cons.inj same).1.symm other
  · exact absurd (List.cons.inj same).1.symm other
  · obtain ⟨rfl, tail⟩ := List.cons.inj same
    exact ⟨_, rfl, tail⟩
  · cases same

/-- The characters after a backslash begin with an escape. -/
inductive Escapes : List Char → Nat → List Char → Prop
  /-- Four digits of a code. -/
  | unit {a b c d : Char} {unit : Nat} (rest : List Char) : hexUnit? a b c d = some unit →
      Escapes ('u' :: a :: b :: c :: d :: rest) unit rest
  /-- A single letter. -/
  | letter {c plain : Char} (rest : List Char) : escaped? c = some plain →
      Escapes (c :: rest) plain.toNat rest

theorem tokensFrom_of_escapes {read : List Nat} (escape : Escapes cs unit rest) :
    tokensFrom (.quoted read) ('\\' :: cs) = tokensFrom (.quoted (unit :: read)) rest := by
  cases escape with
  | unit _ digits => simp only [tokensFrom, digits]
  | @letter c plain _ known =>
      rw [tokensFrom, known]
      rintro _ _ _ _ _ rfl -
      cases known

theorem tokensFrom_of_not_escapes {read : List Nat} (none : ∀ unit rest, ¬ Escapes cs unit rest) :
    tokensFrom (.quoted read) ('\\' :: cs) = [.fault .malformedDocument] := by
  match cs with
  | [] => rfl
  | c :: rest =>
      have plain : escaped? c = Option.none :=
        Option.eq_none_iff_forall_ne_some.mpr fun plain known => none _ _ (.letter rest known)
      by_cases long : ∃ a b d e more, c = 'u' ∧ rest = a :: b :: d :: e :: more
      · obtain ⟨a, b, d, e, more, rfl, rfl⟩ := long
        have digits : hexUnit? a b d e = Option.none :=
          Option.eq_none_iff_forall_ne_some.mpr fun unit known => none _ _ (.unit more known)
        simp only [tokensFrom, digits]
      · rw [tokensFrom, plain]
        exact fun a b d e more here later => long ⟨a, b, d, e, more, here, later⟩

/-- No line end is a hexadecimal digit. -/
theorem ne_of_hexUnit? {a b d e : Char} (known : hexUnit? a b d e = some unit) :
    ∀ c ∈ [a, b, d, e], c ≠ '\r' ∧ c ≠ '\n' := by
  have isDigit : ∀ {c digit}, hexDigit? c = some digit → c ≠ '\r' ∧ c ≠ '\n' := by
    intro c digit found
    constructor <;> (rintro rfl; cases found)
  simp only [hexUnit?, bind, Option.bind_eq_some_iff] at known
  obtain ⟨_, first, _, second, _, third, _, fourth, -⟩ := known
  simp [isDigit first, isDigit second, isDigit third, isDigit fourth]

theorem Escapes.plainLineEnds (escape : Escapes cs unit rest) :
    Escapes (plainLineEnds cs) unit (Text.plainLineEnds rest) := by
  cases escape with
  | unit _ digits =>
      have others := ne_of_hexUnit? digits
      simp only [List.forall_mem_cons] at others
      obtain ⟨a, b, d, e, -⟩ := others
      rw [plainLineEnds_cons (by decide), plainLineEnds_cons a.1, plainLineEnds_cons b.1,
        plainLineEnds_cons d.1, plainLineEnds_cons e.1]
      exact .unit _ digits
  | letter _ known =>
      rw [plainLineEnds_cons (by rintro rfl; cases known)]
      exact .letter _ known

theorem exists_escapes_of_plainLineEnds {more : List Char}
    (escape : Escapes (plainLineEnds cs) unit more) : ∃ rest, Escapes cs unit rest := by
  generalize same : plainLineEnds cs = plain at escape
  cases escape with
  | unit _ digits =>
      have others := ne_of_hexUnit? digits
      simp only [List.forall_mem_cons] at others
      obtain ⟨a, b, d, e, -⟩ := others
      obtain ⟨_, rfl, afterMark⟩ := exists_of_plainLineEnds_eq_cons same (by decide)
      obtain ⟨_, rfl, afterFirst⟩ := exists_of_plainLineEnds_eq_cons afterMark a.2
      obtain ⟨_, rfl, afterSecond⟩ := exists_of_plainLineEnds_eq_cons afterFirst b.2
      obtain ⟨_, rfl, afterThird⟩ := exists_of_plainLineEnds_eq_cons afterSecond d.2
      obtain ⟨_, rfl, -⟩ := exists_of_plainLineEnds_eq_cons afterThird e.2
      exact ⟨_, .unit _ digits⟩
  | letter _ known =>
      obtain ⟨_, rfl, -⟩ := exists_of_plainLineEnds_eq_cons same (by rintro rfl; cases known)
      exact ⟨_, .letter _ known⟩

theorem Escapes.length_lt (escape : Escapes cs unit rest) : rest.length < cs.length := by
  cases escape <;> simp only [List.length_cons] <;> omega

theorem plainLineEnds_return (rest : List Char) :
    ∃ tail, plainLineEnds ('\r' :: rest) = '\n' :: plainLineEnds tail ∧
      (rest = tail ∨ rest = '\n' :: tail) := by
  match rest with
  | [] => exact ⟨[], rfl, .inl rfl⟩
  | c :: more =>
      by_cases feed : c = '\n'
      · exact ⟨more, by rw [feed, plainLineEnds], .inr (by rw [feed])⟩
      · refine ⟨c :: more, ?_, .inl rfl⟩
        rw [plainLineEnds]
        exact fun _ here => feed (List.cons.inj here).1

/-- Outside a quoted text a line end is a gap. -/
theorem tokensFrom_lineEnd {mode : Mode} (outside : ∀ read, mode ≠ .quoted read)
    (lineEnd : c = '\n' ∨ c = '\r') (rest : List Char) :
    tokensFrom mode (c :: rest) =
      if endsInFault mode.pending then mode.pending
      else mode.pending ++ tokensFrom .between rest := by
  cases mode with
  | quoted read => exact absurd rfl (outside read)
  | between | word => rcases lineEnd with rfl | rfl <;> rfl

theorem tokensFrom_quoted_lineEnd (read : List Nat) (lineEnd : c = '\n' ∨ c = '\r')
    (rest : List Char) : tokensFrom (.quoted read) (c :: rest) = [.fault .malformedDocument] := by
  rcases lineEnd with rfl | rfl <;> rfl

/-- An escape is read alike if what follows it is. -/
theorem tokensFrom_backslash {read : List Nat} (later : ∀ mode (rest : List Char),
      rest.length < cs.length → tokensFrom mode (plainLineEnds rest) = tokensFrom mode rest) :
    tokensFrom (.quoted read) ('\\' :: plainLineEnds cs) =
      tokensFrom (.quoted read) ('\\' :: cs) := by
  by_cases escape : ∃ unit rest, Escapes cs unit rest
  · obtain ⟨unit, rest, escape⟩ := escape
    rw [tokensFrom_of_escapes escape, tokensFrom_of_escapes escape.plainLineEnds,
      later _ rest escape.length_lt]
  · have none : ∀ unit rest, ¬ Escapes cs unit rest := fun unit rest known =>
      escape ⟨unit, rest, known⟩
    rw [tokensFrom_of_not_escapes none, tokensFrom_of_not_escapes]
    intro unit rest known
    obtain ⟨before, known⟩ := exists_escapes_of_plainLineEnds known
    exact none unit before known

theorem tokensFrom_quoted_cons {read : List Nat} (plain : c ≠ '\\') (rest : List Char) :
    tokensFrom (.quoted read) (c :: rest) =
      if c == '"' then
        .quoted (String.ofList (joinSurrogates read.reverse)) :: tokensFrom .between rest
      else if c.toNat < 32 || c == '\\' then [.fault .malformedDocument]
      else tokensFrom (.quoted (c.toNat :: read)) rest := by
  rw [tokensFrom]
  · exact fun _ _ _ _ _ here _ => plain here
  · exact fun _ _ here _ => plain here

/-- Outside a quoted text a return is read like what stands in place of it. -/
theorem tokensFrom_return {mode : Mode} (outside : ∀ read, mode ≠ .quoted read)
    (later : ∀ tail : List Char, tail.length ≤ rest.length →
      tokensFrom .between (plainLineEnds tail) = tokensFrom .between tail) :
    tokensFrom mode (plainLineEnds ('\r' :: rest)) = tokensFrom mode ('\r' :: rest) := by
  obtain ⟨tail, plain, split⟩ := plainLineEnds_return rest
  have same : tokensFrom .between (plainLineEnds tail) = tokensFrom .between rest := by
    rcases split with rfl | rfl
    · exact later rest (Nat.le_refl _)
    · have outer : ∀ read, Mode.between ≠ .quoted read := by simp
      exact (later tail (Nat.le_succ _)).trans (tokensFrom_lineEnd outer (.inl rfl) tail).symm
  rw [plain, tokensFrom_lineEnd outside (.inl rfl), tokensFrom_lineEnd outside (.inr rfl), same]

theorem tokensFrom_plainLineEnds (mode : Mode) (cs : List Char) :
    tokensFrom mode (plainLineEnds cs) = tokensFrom mode cs := by
  -- An escape is read at once, so the induction is on the length.
  induction length : cs.length using Nat.strongRecOn generalizing mode cs with
  | ind n shorter =>
      have tail : ∀ mode (rest : List Char), rest.length < n →
          tokensFrom mode (plainLineEnds rest) = tokensFrom mode rest :=
        fun mode rest short => shorter rest.length short mode rest rfl
      match cs with
      | [] => rfl
      | c :: rest =>
          have short : rest.length < n := by rw [← length]; exact Nat.lt_succ_self _
          have later : ∀ l : List Char, l.length ≤ rest.length →
              tokensFrom .between (plainLineEnds l) = tokensFrom .between l :=
            fun l bound => tail _ l (Nat.lt_of_le_of_lt bound short)
          by_cases isReturn : c = '\r'
          · subst isReturn
            cases mode with
            | between | word => exact tokensFrom_return (by simp) later
            | quoted read =>
                obtain ⟨after, plain, -⟩ := plainLineEnds_return rest
                rw [plain, tokensFrom_quoted_lineEnd read (.inl rfl),
                  tokensFrom_quoted_lineEnd read (.inr rfl)]
          · rw [plainLineEnds_cons isReturn]
            cases mode with
            | between | word => simp only [tokensFrom, tail _ rest short]
            | quoted read =>
                by_cases backslash : c = '\\'
                · subst backslash
                  exact tokensFrom_backslash fun mode l bound =>
                    tail mode l (Nat.lt_trans bound short)
                · rw [tokensFrom_quoted_cons backslash, tokensFrom_quoted_cons backslash,
                    tail _ rest short, tail _ rest short]

/-- A document is read alike whatever its lines end with. -/
theorem read_plainLines (s : String) : read (plainLines s) = read s := by
  rw [read, read, tokens, tokens, plainLines, String.toList_ofList, tokensFrom_plainLineEnds]

end JourneyCost.Json
