import JourneyCost.Proofs.Json.RoundTrip

/-!
# Objects of texts, however they are written

Between quotes a character stands for itself, or a letter or its units stand for it after a
backslash; between lexemes there may be blanks.  However an object of texts is written, it is read
as the same object, also from its bytes.
-/

namespace JourneyCost.Json

open Text (toBytes toBytes_eq mapM_charsFrom_toBytes)

/-- Units in hexadecimal digits, a backslash before each. -/
inductive WritesUnits : List Nat → List Char → Prop where
  | nil : WritesUnits [] []
  | cons {unit : Nat} {a b c d : Char} {units : List Nat} {more : List Char} :
      hexUnit? a b c d = some unit → WritesUnits units more →
      WritesUnits (unit :: units) ('\\' :: 'u' :: a :: b :: c :: d :: more)

/-- What may stand for a text between quotes. -/
inductive Writes : List Char → List Char → Prop where
  | nil : Writes [] []
  /-- A character stands for itself. -/
  | plain {c : Char} {cs more : List Char} : c ≠ '"' → c ≠ '\\' → 32 ≤ c.toNat →
      Writes cs more → Writes (c :: cs) (c :: more)
  /-- A letter stands for a character. -/
  | letter {c mark : Char} {cs more : List Char} : escaped? mark = some c →
      Writes cs more → Writes (c :: cs) ('\\' :: mark :: more)
  /-- The units of a character stand for it. -/
  | units {c : Char} {cs written more : List Char} : WritesUnits (unitsOf c) written →
      Writes cs more → Writes (c :: cs) (written ++ more)

section

variable {cs written : List Char} {rest : List Char}

theorem joinSurrogates_toNat (c : Char) (more : List Nat) :
    joinSurrogates (c.toNat :: more) = c :: joinSurrogates more := by
  have valid := toNat_lt_or_lt c
  have high : isHighSurrogate c.toNat = false := by
    simp only [isHighSurrogate, Bool.and_eq_false_iff, decide_eq_false_iff_not]
    omega
  have low : isLowSurrogate c.toNat = false := by
    simp only [isLowSurrogate, Bool.and_eq_false_iff, decide_eq_false_iff_not]
    omega
  cases more <;> simp [joinSurrogates, high, low]

theorem tokensFrom_letter {c mark : Char} (stands : escaped? mark = some c) (read : List Nat) :
    tokensFrom (.quoted read) ('\\' :: mark :: rest) =
      tokensFrom (.quoted (c.toNat :: read)) rest := by
  rw [tokensFrom]
  · rw [stands]
  · rintro a b d e more rfl
    cases stands

theorem tokensFrom_units {units : List Nat} (writes : WritesUnits units written)
    (read : List Nat) :
    tokensFrom (.quoted read) (written ++ rest) =
      tokensFrom (.quoted (units.reverse ++ read)) rest := by
  induction writes generalizing read with
  | nil => rfl
  | cons value _ induction =>
      simp only [List.cons_append]
      rw [tokensFrom, value]
      simp only [induction, List.reverse_cons, List.append_assoc, List.singleton_append]

/-- What stands for a text is read as codes that are joined to the text. -/
theorem exists_codes_of_writes (writes : Writes cs written) :
    ∃ codes : List Nat, (∀ more, joinSurrogates (codes ++ more) = cs ++ joinSurrogates more) ∧
      ∀ read rest, tokensFrom (.quoted read) (written ++ rest) =
        tokensFrom (.quoted (codes.reverse ++ read)) rest := by
  induction writes with
  | nil => exact ⟨[], fun _ => rfl, fun _ _ => rfl⟩
  | @plain c _ _ quote slash printed _ induction =>
      obtain ⟨codes, joined, read⟩ := induction
      refine ⟨c.toNat :: codes, fun more => ?_, fun before rest => ?_⟩
      · rw [List.cons_append, joinSurrogates_toNat, joined, List.cons_append]
      · rw [List.cons_append, tokensFrom_plain quote slash printed, read, List.reverse_cons,
          List.append_assoc, List.singleton_append]
  | @letter c _ _ _ stands _ induction =>
      obtain ⟨codes, joined, read⟩ := induction
      refine ⟨c.toNat :: codes, fun more => ?_, fun before rest => ?_⟩
      · rw [List.cons_append, joinSurrogates_toNat, joined, List.cons_append]
      · rw [List.cons_append, List.cons_append, tokensFrom_letter stands, read, List.reverse_cons,
          List.append_assoc, List.singleton_append]
  | @units c _ _ _ writes _ induction =>
      obtain ⟨codes, joined, read⟩ := induction
      refine ⟨unitsOf c ++ codes, fun more => ?_, fun before rest => ?_⟩
      · rw [List.append_assoc, joinSurrogates_unitsOf, joined, List.cons_append]
      · rw [List.append_assoc, tokensFrom_units writes, read, List.reverse_append,
          List.append_assoc]

theorem lt_of_mem_unitsOf {c : Char} {unit : Nat} (member : unit ∈ unitsOf c) :
    unit < 0x10000 := by
  have valid := toNat_lt_or_lt c
  unfold unitsOf at member
  split at member
  · obtain rfl := List.mem_singleton.mp member
    assumption
  · rw [List.mem_pair] at member
    omega

theorem exists_writesUnits {units : List Nat} (bounds : ∀ unit ∈ units, unit < 0x10000) :
    ∃ written, WritesUnits units written := by
  induction units with
  | nil => exact ⟨[], .nil⟩
  | cons unit more induction =>
      obtain ⟨here, others⟩ := List.forall_mem_cons.mp bounds
      obtain ⟨written, writes⟩ := induction others
      exact ⟨_, .cons (hexUnit?_hexChar here) writes⟩

/-- Every text can be written between quotes. -/
theorem exists_writes (cs : List Char) : ∃ written, Writes cs written := by
  induction cs with
  | nil => exact ⟨[], .nil⟩
  | cons c more induction =>
      obtain ⟨units, writesUnits⟩ := exists_writesUnits fun _ => lt_of_mem_unitsOf (c := c)
      obtain ⟨written, writes⟩ := induction
      exact ⟨_, .units writesUnits writes⟩

/-- A text in quotes. -/
def IsQuoted (s : String) (written : List Char) : Prop :=
  ∃ inside, Writes s.toList inside ∧ written = '"' :: (inside ++ ['"'])

theorem tokens_of_isQuoted {s : String} (quoted : IsQuoted s written) :
    tokens (written ++ rest) = .quoted s :: tokens rest := by
  obtain ⟨inside, writes, rfl⟩ := quoted
  obtain ⟨codes, joined, read⟩ := exists_codes_of_writes writes
  have text : joinSurrogates codes = s.toList := by simpa [joinSurrogates] using joined []
  rw [List.cons_append, List.append_assoc, List.singleton_append, tokens, tokensFrom_openQuote,
    read, tokensFrom_closeQuote, List.append_nil, List.reverse_reverse, text, String.ofList_toList,
    tokens]

end

/-- Blanks between lexemes. -/
def AreBlanks (cs : List Char) : Prop := ∀ c ∈ cs, isGap c = true

/-- A name and a text with a colon between them. -/
inductive WritesMember (field : String × String) : List Char → Prop where
  | mk {name value before after : List Char} : IsQuoted field.1 name → AreBlanks before →
      AreBlanks after → IsQuoted field.2 value →
      WritesMember field (name ++ (before ++ ':' :: (after ++ value)))

/-- Members with a comma before each. -/
inductive WritesFurther : List (String × String) → List Char → Prop where
  | nil : WritesFurther [] []
  | cons {field : String × String} {fields : List (String × String)}
      {before after member more : List Char} : AreBlanks before → AreBlanks after →
      WritesMember field member → WritesFurther fields more →
      WritesFurther (field :: fields) (before ++ ',' :: (after ++ (member ++ more)))

/-- An object of texts. -/
inductive WritesObject : List (String × String) → List Char → Prop where
  | empty {front inside back : List Char} : AreBlanks front → AreBlanks inside → AreBlanks back →
      WritesObject [] (front ++ '\x7b' :: (inside ++ '\x7d' :: back))
  | filled {field : String × String} {fields : List (String × String)}
      {front inside member more last back : List Char} : AreBlanks front → AreBlanks inside →
      WritesMember field member → WritesFurther fields more → AreBlanks last → AreBlanks back →
      WritesObject (field :: fields)
        (front ++ '\x7b' :: (inside ++ (member ++ (more ++ (last ++ '\x7d' :: back)))))

theorem areBlanks_nil : AreBlanks [] := List.forall_mem_nil _

theorem exists_writesMember (field : String × String) : ∃ member, WritesMember field member := by
  obtain ⟨name, writesName⟩ := exists_writes field.1.toList
  obtain ⟨value, writesValue⟩ := exists_writes field.2.toList
  exact ⟨_, .mk ⟨name, writesName, rfl⟩ areBlanks_nil areBlanks_nil ⟨value, writesValue, rfl⟩⟩

theorem exists_writesFurther (fields : List (String × String)) :
    ∃ more, WritesFurther fields more := by
  induction fields with
  | nil => exact ⟨[], .nil⟩
  | cons field more induction =>
      obtain ⟨member, writesMember⟩ := exists_writesMember field
      obtain ⟨further, writesFurther⟩ := induction
      exact ⟨_, .cons areBlanks_nil areBlanks_nil writesMember writesFurther⟩

/-- Every object of texts can be written. -/
theorem exists_writesObject (fields : List (String × String)) :
    ∃ written, WritesObject fields written := by
  cases fields with
  | nil => exact ⟨_, .empty areBlanks_nil areBlanks_nil areBlanks_nil⟩
  | cons field more =>
      obtain ⟨member, writesMember⟩ := exists_writesMember field
      obtain ⟨further, writesFurther⟩ := exists_writesFurther more
      exact ⟨_, .filled areBlanks_nil areBlanks_nil writesMember writesFurther areBlanks_nil
        areBlanks_nil⟩

/-- Texts as the members of an object. -/
def textFields (fields : List (String × String)) : Fields :=
  fields.map fun field => (field.1, .text field.2)

@[simp] theorem map_fst_textFields (fields : List (String × String)) :
    (textFields fields).map Prod.fst = fields.map Prod.fst := by
  simp [textFields, Function.comp_def]

section

variable {rest : List Char}

theorem after_blanks {blanks : List Char} (machine : Machine) (areBlanks : AreBlanks blanks) :
    machine.after blanks = .ok machine := by
  have passed : machine.after (blanks ++ []) = machine.after [] := Machine.after_gaps areBlanks
  rw [List.append_nil] at passed
  exact passed

theorem after_writesMember {field : String × String} {member : List Char}
    (writes : WritesMember field member) {machine : Machine} {read : Fields} {outer : List Frame}
    (named : machine.step (.quoted field.1) = .ok ⟨.object read field.1 :: outer, .colon⟩) :
    machine.after (member ++ rest) =
      Machine.after ⟨.object (read.put field.1 (.text field.2)) field.1 :: outer, .separator⟩
        rest := by
  cases writes with
  | mk name before after value =>
      simp only [List.append_assoc, List.cons_append]
      rw [Machine.after_of_tokens (tokens_of_isQuoted name) named, Machine.after_gaps before,
        Machine.after_of_tokens (tokens_mark rfl) rfl, Machine.after_gaps after,
        Machine.after_of_tokens (tokens_of_isQuoted value) rfl]
      rfl

theorem after_writesFurther {fields : List (String × String)} {more : List Char}
    (writes : WritesFurther fields more) {read : Fields} {outer : List Frame} (key : String)
    (names : ((read ++ textFields fields).map Prod.fst).Nodup) :
    ∃ last, Machine.after ⟨.object read key :: outer, .separator⟩ (more ++ rest) =
      Machine.after ⟨.object (read ++ textFields fields) last :: outer, .separator⟩ rest := by
  induction writes generalizing read key with
  | nil => exact ⟨key, by rw [textFields, List.map_nil, List.append_nil, List.nil_append]⟩
  | @cons field fields _ _ _ _ before after member _ induction =>
      have whole : textFields (field :: fields) =
          (field.1, .text field.2) :: textFields fields := rfl
      rw [whole] at names ⊢
      have put := Fields.put_of_nodup names (.text field.2)
      rw [List.append_cons] at names
      obtain ⟨last, same⟩ := induction field.1 names
      refine ⟨last, ?_⟩
      simp only [List.append_assoc, List.cons_append]
      rw [Machine.after_gaps before, Machine.after_of_tokens (tokens_mark rfl) rfl,
        Machine.after_gaps after, after_writesMember member rfl, put, same,
        List.append_assoc, List.singleton_append]

/-- An object of texts with different names is read however it is written. -/
theorem ofTokens_of_writesObject {fields : List (String × String)} {cs : List Char}
    (writes : WritesObject fields cs) (names : (fields.map Prod.fst).Nodup) :
    ofTokens (tokens cs) = .ok (object (textFields fields)) := by
  suffices ran : Machine.start.after cs = .ok ⟨[], .done (object (textFields fields))⟩ by
    rw [Machine.after] at ran
    rw [ofTokens, ran]
    rfl
  cases writes with
  | empty front inside back =>
      rw [Machine.after_gaps front, Machine.after_of_tokens (tokens_mark rfl) rfl,
        Machine.after_gaps inside, Machine.after_of_tokens (tokens_mark rfl) rfl]
      exact after_blanks _ back
  | @filled field fields _ _ _ _ _ _ front inside member further last back =>
      have apart : (([(field.1, Json.text field.2)] ++ textFields fields).map Prod.fst).Nodup := by
        simpa using names
      obtain ⟨key, same⟩ := after_writesFurther further field.1 apart
      rw [Machine.after_gaps front, Machine.after_of_tokens (tokens_mark rfl) rfl,
        Machine.after_gaps inside, after_writesMember member rfl]
      change Machine.after ⟨.object [(field.1, .text field.2)] field.1 :: [], .separator⟩ _ = _
      rw [same, Machine.after_gaps last, Machine.after_of_tokens (tokens_mark rfl) rfl]
      exact after_blanks _ back

end

/-- A character with one byte, which is not zero. -/
def IsBasic (c : Char) : Prop := 0 < c.toNat ∧ c.toNat < 0x80

theorem isBasic_of_isGap {c : Char} (gap : isGap c = true) : IsBasic c := by
  simp only [isGap, Bool.or_eq_true, beq_iff_eq] at gap
  rcases gap with ((rfl | rfl) | rfl) | rfl <;> exact ⟨by decide, by decide⟩

theorem utf8EncodeChar_of_isBasic {c : Char} (basic : IsBasic c) :
    String.utf8EncodeChar c = [UInt8.ofNat c.toNat] := by
  have small : c.val.toNat ≤ 0x7f := Nat.le_of_lt_succ basic.2
  rw [String.utf8EncodeChar, if_pos small]
  rfl

/-- What begins with a basic character after blanks begins with a basic character. -/
theorem exists_isBasic_cons {blanks rest : List Char} {c : Char} (areBlanks : AreBlanks blanks)
    (basic : IsBasic c) : ∃ d more, blanks ++ c :: rest = d :: more ∧ IsBasic d := by
  cases blanks with
  | nil => exact ⟨c, rest, rfl, basic⟩
  | cons gap more => exact ⟨gap, _, rfl, isBasic_of_isGap (areBlanks gap List.mem_cons_self)⟩

/-- An object begins with two basic characters. -/
theorem exists_isBasic_of_writesObject {fields : List (String × String)} {cs : List Char}
    (writes : WritesObject fields cs) :
    ∃ c d more, cs = c :: d :: more ∧ IsBasic c ∧ IsBasic d := by
  have brace : IsBasic '\x7b' := ⟨by decide, by decide⟩
  obtain ⟨front, inside, c, more, rfl, blankFront, blankInside, basic⟩ :
      ∃ front inside c more, cs = front ++ '\x7b' :: (inside ++ c :: more) ∧ AreBlanks front ∧
        AreBlanks inside ∧ IsBasic c := by
    cases writes with
    | empty blankFront blankInside _ =>
        exact ⟨_, _, _, _, rfl, blankFront, blankInside, by decide, by decide⟩
    | filled blankFront blankInside member _ _ _ =>
        obtain ⟨⟨text, -, rfl⟩, -, -, -⟩ := member
        exact ⟨_, _, _, _, rfl, blankFront, blankInside, by decide, by decide⟩
  cases front with
  | nil =>
      obtain ⟨d, rest, same, basicD⟩ := exists_isBasic_cons blankInside basic
      exact ⟨_, d, rest, congrArg (List.cons _) same, brace, basicD⟩
  | cons gap front =>
      obtain ⟨here, others⟩ := List.forall_mem_cons.mp blankFront
      obtain ⟨d, rest, same, basicD⟩ := exists_isBasic_cons others brace
      exact ⟨gap, d, rest, congrArg (List.cons _) same, isBasic_of_isGap here, basicD⟩

/-- An object of texts is read from its bytes. -/
theorem readBytes_of_writesObject {fields : List (String × String)} {cs : List Char}
    (writes : WritesObject fields cs) (names : (fields.map Prod.fst).Nodup) :
    readBytes (toBytes (String.ofList cs)) = .ok (object (textFields fields)) := by
  have decoded : decodeText? .utf8 (toBytes (String.ofList cs)) = some cs := by
    have characters := mapM_charsFrom_toBytes true (String.ofList cs)
    rwa [String.toList_ofList] at characters
  have plain : detectEncoding (toBytes (String.ofList cs)) =
      (.utf8, toBytes (String.ofList cs)) := by
    obtain ⟨c, d, more, rfl, basicC, basicD⟩ := exists_isBasic_of_writesObject writes
    have value : ∀ {e : Char}, IsBasic e → (UInt8.ofNat e.toNat).toNat = e.toNat := fun basic => by
      rw [UInt8.toNat_ofNat']
      exact Nat.mod_eq_of_lt (basic.2.trans (by decide))
    have nonzero : ∀ {e : Char}, IsBasic e → UInt8.ofNat e.toNat ≠ 0 := fun basic zero => by
      have := congrArg UInt8.toNat zero
      rw [value basic] at this
      exact absurd this basic.1.ne'
    rw [toBytes_eq, String.toList_ofList, List.flatMap_cons, List.flatMap_cons,
      utf8EncodeChar_of_isBasic basicC, utf8EncodeChar_of_isBasic basicD]
    refine detectEncoding_of_small ?_ (nonzero basicC) (nonzero basicD)
    rw [UInt8.lt_iff_toNat_lt, value basicC]
    exact basicC.2
  rw [readBytes, plain]
  simp only [decoded]
  exact ofTokens_of_writesObject writes names

end JourneyCost.Json
