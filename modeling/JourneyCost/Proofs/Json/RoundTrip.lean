import JourneyCost.Json.Encoding
import JourneyCost.Proofs.Json.Distinct
import JourneyCost.Proofs.Json.NumberText
import JourneyCost.Proofs.Json.Quoted
import JourneyCost.Proofs.Text.RoundTrip

/-!
# Documents that are read back

The machine that reads a document comes, over the text of a value, to where it is after the value.
So a document that a text can hold is read back from what is written for it, from the text and from
its bytes.
-/

namespace JourneyCost.Json

section

variable {c : Char} {rest : List Char}

theorem tokens_mark {token : Token} (here : punctuation? c = some token) :
    tokens (c :: rest) = token :: tokens rest := by
  simp [tokens, tokensFrom, here, Mode.pending, endsInFault]

theorem tokens_gaps {gaps : List Char} (blank : ∀ c ∈ gaps, isGap c = true) :
    tokens (gaps ++ rest) = tokens rest := by
  induction gaps with
  | nil => rfl
  | cons gap more induction =>
      obtain ⟨here, others⟩ := List.forall_mem_cons.mp blank
      have unmarked : punctuation? gap = none := by
        unfold punctuation?
        split
        case h_7 => rfl
        all_goals exact absurd here (by decide)
      rw [← induction others]
      simp [tokens, tokensFrom, unmarked, here, Mode.pending, endsInFault]

/-- Whether no word goes on with what follows. -/
def EndsWord (rest : List Char) : Prop := ∀ c ∈ rest.head?, isWordChar c = false

theorem endsWord_nil : EndsWord [] := fun c member => by cases member

theorem endsWord_mark {token : Token} (here : punctuation? c = some token) :
    EndsWord (c :: rest) := by
  intro other member
  obtain rfl : c = other := Option.some.inj member
  simp [isWordChar, here]

theorem endsWord_gaps {gaps : List Char} (blank : ∀ c ∈ gaps, isGap c = true)
    (ends : EndsWord rest) : EndsWord (gaps ++ rest) := by
  cases gaps with
  | nil => exact ends
  | cons gap more =>
      intro other member
      obtain rfl : gap = other := Option.some.inj member
      simp [isWordChar, blank gap List.mem_cons_self]

theorem tokensFrom_word_append {cs : List Char} (chars : ∀ c ∈ cs, isWordChar c = true)
    (read : List Char) :
    tokensFrom (.word read) (cs ++ rest) = tokensFrom (.word (cs.reverse ++ read)) rest := by
  induction cs generalizing read with
  | nil => rfl
  | cons c more induction =>
      obtain ⟨here, others⟩ := List.forall_mem_cons.mp chars
      simp only [isWordChar, Bool.and_eq_true, Option.isNone_iff_eq_none, Bool.not_eq_true',
        bne_iff_ne] at here
      obtain ⟨⟨unmarked, full⟩, unquoted⟩ := here
      rw [List.reverse_cons, List.append_assoc, List.singleton_append, ← induction others]
      simp [tokensFrom, unmarked, full, unquoted]

/-- A word is read as its lexeme. -/
theorem tokens_word {word : List Char} {value : Json} (isWord : IsWord word)
    (lexeme : wordTokens word = [.scalar value]) (ends : EndsWord rest) :
    tokens (word ++ rest) = .scalar value :: tokens rest := by
  obtain ⟨c, more, rfl⟩ := List.exists_cons_of_ne_nil isWord.nonempty
  have begun : tokens (c :: more ++ rest) = tokensFrom (.word (c :: more).reverse) rest := by
    have whole : tokensFrom (.word []) (c :: more ++ rest) =
        tokensFrom (.word ((c :: more).reverse ++ [])) rest :=
      tokensFrom_word_append isWord.chars []
    rw [List.append_nil] at whole
    rw [← whole]
    obtain ⟨here, others⟩ := List.forall_mem_cons.mp isWord.chars
    simp only [isWordChar, Bool.and_eq_true, Option.isNone_iff_eq_none, Bool.not_eq_true',
      bne_iff_ne] at here
    obtain ⟨⟨unmarked, full⟩, unquoted⟩ := here
    simp [tokens, tokensFrom, unmarked, full, unquoted]
  rw [begun]
  cases rest with
  | nil => simp [tokens, tokensFrom, Mode.pending, lexeme]
  | cons d others =>
      have stops := ends d rfl
      cases mark : punctuation? d with
      | some token => simp [tokens, tokensFrom, mark, lexeme, endsInFault, Mode.pending]
      | none =>
          cases gap : isGap d with
          | true => simp [tokens, tokensFrom, mark, gap, lexeme, endsInFault, Mode.pending]
          | false =>
              obtain rfl : d = '"' := by simpa [isWordChar, mark, gap] using stops
              simp [tokens, tokensFrom, mark, gap, lexeme, endsInFault, Mode.pending]

end

/-- Whether a layout puts nothing but blanks between lexemes. -/
structure Layout.IsBlank (layout : Layout) : Prop where
  /-- Blanks stand before an item. -/
  gap : ∀ depth, ∀ c ∈ layout.gap depth, isGap c = true
  /-- A colon and blanks stand after the name of a member. -/
  colon : ∃ blanks, layout.colon = ':' :: blanks ∧ ∀ c ∈ blanks, isGap c = true

theorem isBlank_compact : Layout.compact.IsBlank :=
  ⟨fun _ => List.forall_mem_nil _, [], rfl, List.forall_mem_nil _⟩

theorem isBlank_pretty : Layout.pretty.IsBlank where
  gap depth c member := by
    rcases List.mem_cons.mp member with rfl | blank
    · rfl
    · rw [List.eq_of_mem_replicate blank]
      rfl
  colon := ⟨[' '], rfl, List.forall_mem_singleton.mpr rfl⟩

/-! ## The machine -/

namespace Machine

/-- The machine after the lexemes of a text. -/
def after (machine : Machine) (cs : List Char) : Except Fault Machine :=
  (tokens cs).foldlM step machine

/-- Whether a value can begin. -/
def Awaits (machine : Machine) (stack : List Frame) : Prop :=
  machine = ⟨stack, .value⟩ ∨ machine = ⟨stack, .firstItem⟩

section

variable {machine next : Machine} {stack : List Frame} {rest : List Char} {token : Token}

theorem after_of_tokens {cs : List Char} (read : tokens cs = token :: tokens rest)
    (stepped : machine.step token = .ok next) : machine.after cs = next.after rest := by
  rw [after, read, List.foldlM_cons, stepped]
  rfl

theorem after_gaps {gaps : List Char} (blank : ∀ c ∈ gaps, isGap c = true) :
    machine.after (gaps ++ rest) = machine.after rest := by
  rw [after, tokens_gaps blank, after]

theorem step_of_awaits (awaits : machine.Awaits stack) (goesOn : token ≠ .closeList) :
    machine.step token = begin stack token := by
  rcases awaits with rfl | rfl
  · cases token <;> rfl
  · cases token <;> first | rfl | exact absurd rfl goesOn

end

end Machine

/-- Whether a value is read from what is written for it, wherever it can begin. -/
def ReadsBack (layout : Layout) (value : Json) : Prop :=
  ∀ (machine : Machine) (stack : List Frame) (depth : Nat) (rest : List Char),
    machine.Awaits stack → EndsWord rest →
      machine.after (write layout depth value ++ rest) = (Machine.accept stack value).after rest

section

variable {layout : Layout} {rest : List Char} {depth : Nat}

theorem readsBack_word {word : List Char} {value : Json}
    (written : ∀ depth, write layout depth value = word) (isWord : IsWord word)
    (lexeme : wordTokens word = [.scalar value]) : ReadsBack layout value := by
  intro machine stack depth rest awaits ends
  rw [written]
  exact Machine.after_of_tokens (tokens_word isWord lexeme ends)
    (Machine.step_of_awaits awaits (by simp))

theorem readsBack_text (s : String) : ReadsBack layout (text s) := by
  intro machine stack depth rest awaits _
  exact Machine.after_of_tokens (tokensFrom_quote s rest) (Machine.step_of_awaits awaits (by simp))

theorem endsWord_writeItems {items : List Json} (ends : EndsWord rest) :
    EndsWord (writeItems layout depth items ++ rest) := by
  cases items with
  | nil => exact ends
  | cons item more => exact endsWord_mark rfl

theorem endsWord_writeFields {fields : Fields} (ends : EndsWord rest) :
    EndsWord (writeFields layout depth fields ++ rest) := by
  cases fields with
  | nil => exact ends
  | cons field more =>
      obtain ⟨name, value⟩ := field
      exact endsWord_mark rfl

variable (blank : layout.IsBlank)

include blank

/-- The further items of a list are read one after the other. -/
theorem after_writeItems {items read : List Json} {outer : List Frame}
    (each : ∀ item ∈ items, ReadsBack layout item) (ends : EndsWord rest) :
    Machine.after ⟨.list read :: outer, .separator⟩ (writeItems layout depth items ++ rest) =
      Machine.after ⟨.list (items.reverse ++ read) :: outer, .separator⟩ rest := by
  induction items generalizing read with
  | nil => rfl
  | cons item more induction =>
      obtain ⟨here, others⟩ := List.forall_mem_cons.mp each
      have further : EndsWord (writeItems layout depth more ++ rest) :=
        endsWord_writeItems ends
      rw [writeItems, List.append_assoc, List.append_assoc, List.cons_append,
        Machine.after_of_tokens (tokens_mark rfl) rfl, Machine.after_gaps (blank.gap depth),
        here _ (.list read :: outer) _ _ (.inl rfl) further, Machine.accept, induction others]
      simp

theorem readsBack_list {items : List Json} (each : ∀ item ∈ items, ReadsBack layout item) :
    ReadsBack layout (list items) := by
  intro machine stack depth rest awaits _
  have opens := Machine.step_of_awaits awaits (show Token.openList ≠ .closeList by simp)
  cases items with
  | nil =>
      rw [write, List.cons_append, List.cons_append,
        Machine.after_of_tokens (tokens_mark rfl) opens,
        Machine.after_of_tokens (tokens_mark rfl) rfl]
      rfl
  | cons first more =>
      obtain ⟨here, others⟩ := List.forall_mem_cons.mp each
      have closing : EndsWord (layout.gap depth ++ ']' :: rest) :=
        endsWord_gaps (blank.gap depth) (endsWord_mark rfl)
      have further : EndsWord (writeItems layout (depth + 1) more ++
          (layout.gap depth ++ ']' :: rest)) := endsWord_writeItems closing
      simp only [write, List.append_assoc, List.cons_append, List.nil_append]
      rw [Machine.after_of_tokens (tokens_mark rfl) opens, Machine.after_gaps (blank.gap _),
        here _ (.list [] :: stack) _ _ (.inr rfl) further, Machine.accept,
        after_writeItems blank others closing, Machine.after_gaps (blank.gap _),
        Machine.after_of_tokens (tokens_mark rfl) rfl]
      simp

/-- A member is read wherever its name is. -/
theorem after_member {machine : Machine} {read : Fields} {outer : List Frame} {name : String}
    {value : Json} (named : machine.step (.quoted name) = .ok ⟨.object read name :: outer, .colon⟩)
    (here : ReadsBack layout value) (ends : EndsWord rest) :
    machine.after (quote name ++ (layout.colon ++ (write layout depth value ++ rest))) =
      Machine.after ⟨.object (read.put name value) name :: outer, .separator⟩ rest := by
  obtain ⟨blanks, colon, gaps⟩ := blank.colon
  rw [Machine.after_of_tokens (tokensFrom_quote name _) named, colon, List.cons_append,
    Machine.after_of_tokens (tokens_mark rfl) rfl, Machine.after_gaps gaps,
    here _ (.object read name :: outer) _ _ (.inl rfl) ends]
  rfl

/-- The further members of an object are read one after the other. -/
theorem after_writeFields {fields read : Fields} {outer : List Frame} (key : String)
    (names : ((read ++ fields).map Prod.fst).Nodup)
    (each : ∀ field ∈ fields, ReadsBack layout field.2) (ends : EndsWord rest) :
    ∃ last, Machine.after ⟨.object read key :: outer, .separator⟩
        (writeFields layout depth fields ++ rest) =
      Machine.after ⟨.object (read ++ fields) last :: outer, .separator⟩ rest := by
  induction fields generalizing read key with
  | nil => exact ⟨key, by rw [List.append_nil]; rfl⟩
  | cons field more induction =>
      obtain ⟨name, value⟩ := field
      obtain ⟨here, others⟩ := List.forall_mem_cons.mp each
      have further : EndsWord (writeFields layout depth more ++ rest) :=
        endsWord_writeFields ends
      have put := Fields.put_of_nodup names value
      rw [List.append_cons] at names
      obtain ⟨last, same⟩ := induction name names others
      refine ⟨last, ?_⟩
      simp only [writeFields, List.append_assoc, List.cons_append]
      rw [Machine.after_of_tokens (tokens_mark rfl) rfl, Machine.after_gaps (blank.gap _),
        after_member blank rfl here further, put, same, ← List.append_cons]

theorem readsBack_object {fields : Fields} (names : (fields.map Prod.fst).Nodup)
    (each : ∀ field ∈ fields, ReadsBack layout field.2) : ReadsBack layout (object fields) := by
  intro machine stack depth rest awaits _
  have opens := Machine.step_of_awaits awaits (show Token.openObject ≠ .closeList by simp)
  cases fields with
  | nil =>
      rw [write, List.cons_append, List.cons_append,
        Machine.after_of_tokens (tokens_mark rfl) opens,
        Machine.after_of_tokens (tokens_mark rfl) rfl]
      rfl
  | cons field more =>
      obtain ⟨name, value⟩ := field
      obtain ⟨here, others⟩ := List.forall_mem_cons.mp each
      have closing : EndsWord (layout.gap depth ++ '\x7d' :: rest) :=
        endsWord_gaps (blank.gap depth) (endsWord_mark rfl)
      have further : EndsWord (writeFields layout (depth + 1) more ++
          (layout.gap depth ++ '\x7d' :: rest)) := endsWord_writeFields closing
      have apart : (([(name, value)] ++ more).map Prod.fst).Nodup := names
      obtain ⟨last, same⟩ := after_writeFields blank name apart others closing
      simp only [write, List.append_assoc, List.cons_append, List.nil_append]
      rw [Machine.after_of_tokens (tokens_mark rfl) opens, Machine.after_gaps (blank.gap _),
        after_member blank rfl here further]
      change Machine.after ⟨.object [(name, value)] name :: stack, .separator⟩ _ = _
      rw [same, Machine.after_gaps (blank.gap _), Machine.after_of_tokens (tokens_mark rfl) rfl]
      rfl

/-! ## Documents -/

/-- Every document that a text can hold is read back, piece by piece. -/
theorem readsBack_of_readable {value : Json} (readable : value.Readable) :
    ReadsBack layout value := by
  induction readable with
  | null => exact readsBack_word (fun _ => rfl) ⟨List.cons_ne_nil _ _, List.all_eq_true.mp rfl⟩ rfl
  | bool value =>
      cases value <;>
        exact readsBack_word (fun _ => rfl) ⟨List.cons_ne_nil _ _, List.all_eq_true.mp rfl⟩ rfl
  | int short =>
      obtain ⟨isWord, lexeme⟩ := wordTokens_intText short
      exact readsBack_word (fun _ => rfl) isWord lexeme
  | float x =>
      obtain ⟨isWord, lexeme⟩ := wordTokens_write x
      exact readsBack_word (fun _ => rfl) isWord lexeme
  | text s => exact readsBack_text s
  | list _ induction => exact readsBack_list blank induction
  | object names _ induction => exact readsBack_object blank names induction

end

/-- A document that a text can hold is read from what is written for it in any layout. -/
theorem read_write {layout : Layout} (blank : layout.IsBlank) {value : Json}
    (readable : value.Readable) : read (String.ofList (write layout 0 value)) = .ok value := by
  have ran := readsBack_of_readable blank readable Machine.start [] 0 [] (.inl rfl) endsWord_nil
  rw [List.append_nil, Machine.after] at ran
  rw [read, String.toList_ofList, ofTokens, ran]
  rfl

/-- A document is read back with its members in order. -/
theorem read_pretty {value : Json} (readable : value.Readable) :
    read value.pretty = .ok value.sorted :=
  read_write isBlank_pretty (readable_sorted readable)

theorem read_compact {value : Json} (readable : value.Readable) :
    read value.compact = .ok value.sorted :=
  read_write isBlank_compact (readable_sorted readable)

open Text (toBytes toBytes_eq mapM_charsFrom_toBytes)

/-- Bytes that begin with a small one, and have no zero among their first two, are UTF-8. -/
theorem detectEncoding_of_small {a b : UInt8} {rest : Bytes} (small : a < 0x80) (first : a ≠ 0)
    (second : b ≠ 0) : detectEncoding (a :: b :: rest) = (.utf8, a :: b :: rest) := by
  have zeros : encodingByZeros (a :: b :: rest) = .utf8 := by
    unfold encodingByZeros
    split <;> simp_all
  unfold detectEncoding
  split <;> simp_all

/-- The bytes of an object begin with a brace; then comes a quote or another brace. -/
theorem exists_toBytes_compact (fields : Fields) : ∃ second rest, second ≠ 0 ∧
    toBytes (object fields).compact = 0x7B :: second :: rest := by
  rw [toBytes_eq, compact, sorted_object, String.toList_ofList]
  cases orderedFields fields with
  | nil => exact ⟨0x7D, [], by decide, rfl⟩
  | cons field more => exact ⟨0x22, _, by decide, rfl⟩

/-- An object is read back from its bytes, with its members in order. -/
theorem readBytes_compact {fields : Fields} (readable : (object fields).Readable) :
    readBytes (toBytes (object fields).compact) = .ok (object (orderedFields fields)) := by
  have decoded : decodeText? .utf8 (toBytes (object fields).compact) =
      some (object fields).compact.toList := mapM_charsFrom_toBytes true _
  obtain ⟨second, rest, nonzero, bytes⟩ := exists_toBytes_compact fields
  have plain : detectEncoding (toBytes (object fields).compact) =
      (.utf8, toBytes (object fields).compact) := by
    rw [bytes]
    exact detectEncoding_of_small (by decide) (by decide) nonzero
  rw [readBytes, plain]
  simp only [decoded]
  exact (read_compact readable).trans (congrArg Except.ok (sorted_object fields))

end JourneyCost.Json
