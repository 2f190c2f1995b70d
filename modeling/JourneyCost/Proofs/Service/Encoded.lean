import JourneyCost.Proofs.Json.Spelling
import JourneyCost.Proofs.Text.Splitting
import JourneyCost.Service.Form

/-!
# Forms that are read back

In a form a character stands for itself, a plus sign stands for a blank, or the bytes of a character
stand for it in hexadecimal digits after percent signs.  However a form is written, its fields are
read from it, and of fields with different names it makes the same object as a document does.
-/

namespace JourneyCost.Service

open Json (hexDigit? textFields)
open Text (toBytes)

/-- A character that stands in the name or in the text of a field. -/
structure IsFieldChar (c : Char) : Prop where
  /-- It is printed. -/
  printed : 32 < c.toNat ∧ c.toNat < 127
  /-- It separates nothing in a form or in an address. -/
  unmarked : c ≠ '&' ∧ c ≠ '=' ∧ c ≠ '#'

/-- A character that may stand for itself in a form. -/
structure IsPlain (c : Char) : Prop extends IsFieldChar c where
  /-- It stands for no byte. -/
  sign : c ≠ '%'
  /-- It stands for no blank. -/
  plus : c ≠ '+'

/-- Bytes in hexadecimal digits, a percent sign before each. -/
inductive EncodesBytes : Bytes → List Char → Prop where
  | nil : EncodesBytes [] []
  | cons {b : UInt8} {high low : Char} {bytes : Bytes} {more : List Char} :
      byteOfHex? high low = some b → EncodesBytes bytes more →
      EncodesBytes (b :: bytes) ('%' :: high :: low :: more)

/-- What may stand for a text in a form. -/
inductive Encodes : List Char → List Char → Prop where
  | nil : Encodes [] []
  /-- A character stands for itself. -/
  | plain {c : Char} {cs more : List Char} : IsPlain c → Encodes cs more →
      Encodes (c :: cs) (c :: more)
  /-- A plus sign stands for a blank. -/
  | blank {cs more : List Char} : Encodes cs more → Encodes (' ' :: cs) ('+' :: more)
  /-- The bytes of a character stand for it. -/
  | bytes {c : Char} {cs written more : List Char} :
      EncodesBytes (String.utf8EncodeChar c) written → Encodes cs more →
      Encodes (c :: cs) (written ++ more)

/-- A name and a text with an equals sign between them. -/
def EncodesField (field : String × String) (written : List Char) : Prop :=
  ∃ name value, Encodes field.1.toList name ∧ Encodes field.2.toList value ∧
    written = name ++ '=' :: value

/-- Fields with ampersands between them. -/
def EncodesForm (fields : List (String × String)) (written : List Char) : Prop :=
  ∃ parts, List.Forall₂ EncodesField fields parts ∧ written = List.intercalate ['&'] parts

section

variable {cs written : List Char}

theorem isPlain_of_hexDigit? {c : Char} {n : Nat} (digit : hexDigit? c = some n) : IsPlain c := by
  have range : (48 ≤ c.toNat ∧ c.toNat ≤ 57) ∨ (97 ≤ c.toNat ∧ c.toNat ≤ 102) ∨
      (65 ≤ c.toNat ∧ c.toNat ≤ 70) := by
    simp only [hexDigit?, Bool.and_eq_true, decide_eq_true_eq, Char.le_def, UInt32.le_iff_toNat_le]
      at digit
    split_ifs at digit with decimal small large
    · exact .inl decimal
    · exact .inr (.inl small)
    · exact .inr (.inr large)
  have apart : ∀ d ∈ ['&', '=', '#', '%', '+'], c ≠ d := by
    rintro d member rfl
    simp only [List.mem_cons, List.not_mem_nil, or_false] at member
    rcases member with rfl | rfl | rfl | rfl | rfl <;> cases digit
  exact ⟨⟨⟨by omega, by omega⟩, apart _ (by simp), apart _ (by simp), apart _ (by simp)⟩,
    apart _ (by simp), apart _ (by simp)⟩

theorem exists_hexDigit?_of_byteOfHex? {high low : Char} {b : UInt8}
    (byte : byteOfHex? high low = some b) :
    (∃ m, hexDigit? high = some m) ∧ ∃ n, hexDigit? low = some n := by
  unfold byteOfHex? at byte
  cases first : hexDigit? high with
  | none => simp [first] at byte
  | some m =>
      cases second : hexDigit? low with
      | none => simp [first, second] at byte
      | some n => exact ⟨⟨m, rfl⟩, n, rfl⟩

theorem isFieldChar_of_encodesBytes {bytes : Bytes} (encodes : EncodesBytes bytes written) :
    ∀ c ∈ written, IsFieldChar c ∧ c ≠ '+' := by
  induction encodes with
  | nil => exact List.forall_mem_nil _
  | cons byte _ induction =>
      obtain ⟨⟨m, first⟩, n, second⟩ := exists_hexDigit?_of_byteOfHex? byte
      have digit : ∀ {c : Char} {n : Nat}, hexDigit? c = some n → IsFieldChar c ∧ c ≠ '+' :=
        fun digit => ⟨(isPlain_of_hexDigit? digit).toIsFieldChar, (isPlain_of_hexDigit? digit).plus⟩
      have percent : IsFieldChar '%' ∧ '%' ≠ '+' := ⟨⟨by decide, by decide⟩, by decide⟩
      exact List.forall_mem_cons.mpr ⟨percent, List.forall_mem_cons.mpr ⟨digit first,
        List.forall_mem_cons.mpr ⟨digit second, induction⟩⟩⟩

theorem isFieldChar_of_encodes (encodes : Encodes cs written) : ∀ c ∈ written, IsFieldChar c := by
  induction encodes with
  | nil => exact List.forall_mem_nil _
  | plain plain _ induction =>
      exact List.forall_mem_cons.mpr ⟨plain.toIsFieldChar, induction⟩
  | blank _ induction =>
      exact List.forall_mem_cons.mpr ⟨⟨by decide, by decide⟩, induction⟩
  | bytes encodes _ induction =>
      exact List.forall_mem_append.mpr
        ⟨fun c member => (isFieldChar_of_encodesBytes encodes c member).1, induction⟩

theorem byteOfHex?_hexChar (b : UInt8) :
    byteOfHex? (Json.hexChar (b.toNat / 16)) (Json.hexChar (b.toNat % 16)) = some b := by
  have bound := b.toNat_lt
  have value : 16 * (b.toNat / 16) + b.toNat % 16 = b.toNat := by omega
  rw [byteOfHex?, Json.hexDigit?_hexChar (by omega), Json.hexDigit?_hexChar (by omega)]
  change some (UInt8.ofNat (16 * (b.toNat / 16) + b.toNat % 16)) = some b
  rw [value, UInt8.ofNat_toNat]

theorem exists_encodesBytes (bytes : Bytes) : ∃ written, EncodesBytes bytes written := by
  induction bytes with
  | nil => exact ⟨[], .nil⟩
  | cons b more induction =>
      obtain ⟨written, encodes⟩ := induction
      exact ⟨_, .cons (byteOfHex?_hexChar b) encodes⟩

theorem exists_encodes (cs : List Char) : ∃ written, Encodes cs written := by
  induction cs with
  | nil => exact ⟨[], .nil⟩
  | cons c more induction =>
      obtain ⟨bytes, encodesBytes⟩ := exists_encodesBytes (String.utf8EncodeChar c)
      obtain ⟨written, encodes⟩ := induction
      exact ⟨_, .bytes encodesBytes encodes⟩

/-- Every list of fields can be put in a form. -/
theorem exists_encodesForm (fields : List (String × String)) :
    ∃ written, EncodesForm fields written := by
  suffices each : ∃ parts, List.Forall₂ EncodesField fields parts by
    obtain ⟨parts, each⟩ := each
    exact ⟨_, parts, each, rfl⟩
  induction fields with
  | nil => exact ⟨[], .nil⟩
  | cons field more induction =>
      obtain ⟨name, encodesName⟩ := exists_encodes field.1.toList
      obtain ⟨value, encodesValue⟩ := exists_encodes field.2.toList
      obtain ⟨parts, each⟩ := induction
      exact ⟨_, .cons ⟨name, value, encodesName, encodesValue, rfl⟩ each⟩

/-- A blank in place of a plus sign. -/
def blankForPlus (c : Char) : Char := if c == '+' then ' ' else c

theorem percentBytes_of_encodesBytes {bytes : Bytes} (encodes : EncodesBytes bytes written)
    (rest : List Char) : percentBytes (written ++ rest) = bytes ++ percentBytes rest := by
  induction encodes with
  | nil => rfl
  | cons byte _ induction =>
      simp only [List.cons_append]
      rw [percentBytes, byte]
      simp only [induction]

theorem percentBytes_cons {c : Char} (sign : c ≠ '%') (rest : List Char) :
    percentBytes (c :: rest) = String.utf8EncodeChar c ++ percentBytes rest := by
  have one : toBytes c.toString = String.utf8EncodeChar c := by
    rw [Text.toBytes_eq]
    simp
  rw [percentBytes, one]
  exact fun _ _ _ same _ => sign same

/-- What stands for a text in a form is decoded to the bytes of the text. -/
theorem percentBytes_of_encodes (encodes : Encodes cs written) :
    percentBytes (written.map blankForPlus) = cs.flatMap String.utf8EncodeChar := by
  induction encodes with
  | nil => rfl
  | @plain c _ _ plain _ induction =>
      have same : blankForPlus c = c := if_neg (by simpa using plain.plus)
      rw [List.map_cons, same, percentBytes_cons plain.sign, induction, List.flatMap_cons]
  | blank _ induction =>
      have same : blankForPlus '+' = ' ' := rfl
      rw [List.map_cons, same, percentBytes_cons (by decide), induction, List.flatMap_cons]
  | @bytes c _ written _ encodes _ induction =>
      -- No digit is a plus sign, so the blanks change nothing here.
      have same : written.map blankForPlus = written := by
        have kept : ∀ d ∈ written, blankForPlus d = id d := fun d member =>
          if_neg (by simpa using (isFieldChar_of_encodesBytes encodes d member).2)
        rw [List.map_congr_left kept, List.map_id]
      rw [List.map_append, same, percentBytes_of_encodesBytes encodes, induction,
        List.flatMap_cons]

theorem asciiRuns_of_small (small : ∀ c ∈ cs, c.toNat < 128) (nonempty : cs ≠ []) :
    asciiRuns cs = [cs] := by
  induction cs with
  | nil => exact absurd rfl nonempty
  | cons c more induction =>
      obtain ⟨here, others⟩ := List.forall_mem_cons.mp small
      cases more with
      | nil => rfl
      | cons d further =>
          have next : d.toNat < 128 := others d List.mem_cons_self
          rw [asciiRuns, induction others (List.cons_ne_nil _ _)]
          simp [here, next]

theorem percentDecode_of_small (small : ∀ c ∈ cs, c.toNat < 128) :
    percentDecode cs = Text.ofBytesLossy (percentBytes cs) := by
  cases cs with
  | nil => rfl
  | cons c more =>
      rw [percentDecode, asciiRuns_of_small small (List.cons_ne_nil _ _)]
      simp [String.join]

/-- What stands for a text in a form is decoded to the text. -/
theorem formDecode_of_encodes (encodes : Encodes cs written) :
    formDecode written = String.ofList cs := by
  have small : ∀ c ∈ written.map blankForPlus, c.toNat < 128 := by
    intro c member
    obtain ⟨d, inside, rfl⟩ := List.mem_map.mp member
    have bound := (isFieldChar_of_encodes encodes d inside).printed.2
    unfold blankForPlus
    split
    · decide
    · omega
  have decoded : formDecode written = percentDecode (written.map blankForPlus) := rfl
  rw [decoded, percentDecode_of_small small, percentBytes_of_encodes encodes,
    ← Text.ofBytesLossy_toBytes (String.ofList cs), Text.toBytes_eq, String.toList_ofList]

end

variable {fields : List (String × String)} {written : List Char}

theorem formField_of_encodesField {field : String × String}
    (encodes : EncodesField field written) : formField written = field := by
  obtain ⟨name, value, encodesName, encodesValue, rfl⟩ := encodes
  have inside : '=' ∉ name := fun member =>
    (isFieldChar_of_encodes encodesName _ member).unmarked.2.1 rfl
  rw [formField, Text.cutChars_append inside]
  simp only [Option.getD_some, formDecode_of_encodes encodesName,
    formDecode_of_encodes encodesValue, String.ofList_toList]

theorem not_isEmpty_of_encodesField {field : String × String}
    (encodes : EncodesField field written) : (!written.isEmpty) = true := by
  obtain ⟨name, value, -, -, rfl⟩ := encodes
  simp

theorem isFieldChar_or_eq_of_encodesField {field : String × String}
    (encodes : EncodesField field written) : ∀ c ∈ written, IsFieldChar c ∨ c = '=' := by
  obtain ⟨name, value, encodesName, encodesValue, rfl⟩ := encodes
  refine List.forall_mem_append.mpr ⟨fun c member => ?_, List.forall_mem_cons.mpr
    ⟨.inr rfl, fun c member => ?_⟩⟩
  · exact .inl (isFieldChar_of_encodes encodesName c member)
  · exact .inl (isFieldChar_of_encodes encodesValue c member)

theorem not_mem_of_encodesField {field : String × String} (encodes : EncodesField field written) :
    '&' ∉ written := by
  intro member
  rcases isFieldChar_or_eq_of_encodesField encodes _ member with isFieldChar | same
  · exact isFieldChar.unmarked.1 rfl
  · exact absurd same (by decide)

theorem map_formField_of_forall₂ {parts : List (List Char)}
    (encodes : List.Forall₂ EncodesField fields parts) : parts.map formField = fields := by
  induction encodes with
  | nil => rfl
  | cons here _ induction => rw [List.map_cons, formField_of_encodesField here, induction]

theorem exists_encodesField {parts : List (List Char)}
    (encodes : List.Forall₂ EncodesField fields parts) :
    ∀ part ∈ parts, ∃ field, EncodesField field part := by
  induction encodes with
  | nil => exact List.forall_mem_nil _
  | cons here _ induction => exact List.forall_mem_cons.mpr ⟨⟨_, here⟩, induction⟩

theorem splitChars_of_encodesForm (encodes : EncodesForm fields written) :
    ∃ parts, List.Forall₂ EncodesField fields parts ∧
      Text.splitChars '&' written = if parts = [] then [[]] else parts := by
  obtain ⟨parts, each, rfl⟩ := encodes
  refine ⟨parts, each, ?_⟩
  split
  · rename_i none
    rw [none]
    rfl
  · rename_i some
    refine Text.splitChars_intercalate some fun part member => ?_
    obtain ⟨field, encodes⟩ := exists_encodesField each part member
    exact not_mem_of_encodesField encodes

/-- The fields of a form are read from it. -/
theorem formFields_of_encodesForm (encodes : EncodesForm fields written) :
    formFields (String.ofList written) = fields := by
  obtain ⟨parts, each, split⟩ := splitChars_of_encodesForm encodes
  rw [formFields, formParts, String.toList_ofList, split]
  split_ifs with none
  · subst none
    obtain rfl := List.forall₂_nil_right_iff.mp each
    rfl
  · have filled : ∀ part ∈ parts, (!part.isEmpty) = true := by
      intro part member
      obtain ⟨field, encodes⟩ := exists_encodesField each part member
      exact not_isEmpty_of_encodesField encodes
    rw [List.filter_eq_self.mpr filled, map_formField_of_forall₂ each]

theorem not_hasTooManyFields (encodes : EncodesForm fields written)
    (few : fields.length ≤ fieldLimit) : hasTooManyFields (String.ofList written) = false := by
  obtain ⟨parts, each, split⟩ := splitChars_of_encodesForm encodes
  rw [hasTooManyFields, String.toList_ofList, split, decide_eq_false_iff_not, Nat.not_lt]
  split_ifs
  · exact Nat.one_le_of_lt (by decide : 0 < fieldLimit)
  · exact each.length_eq ▸ few

/-- Fields with different names make an object with one member for each. -/
theorem fieldObject_of_nodup (names : (fields.map Prod.fst).Nodup) :
    fieldObject fields = textFields fields := by
  suffices all : ∀ object : Fields, ((object ++ textFields fields).map Prod.fst).Nodup →
      fields.foldl (fun object field => object.put field.1 (.text field.2)) object =
        object ++ textFields fields by
    exact all [] (by simpa using names)
  clear names
  induction fields with
  | nil => exact fun object _ => (List.append_nil object).symm
  | cons field more induction =>
      intro object names
      have whole : textFields (field :: more) = (field.1, .text field.2) :: textFields more := rfl
      rw [whole] at names ⊢
      have put := Fields.put_of_nodup names (.text field.2)
      rw [List.append_cons] at names
      rw [List.foldl_cons, put, induction _ names, List.append_assoc,
        List.singleton_append]

/-- A form makes the object of its fields. -/
theorem formObject?_of_encodesForm (encodes : EncodesForm fields written)
    (names : (fields.map Prod.fst).Nodup) (few : fields.length ≤ fieldLimit) :
    formObject? (String.ofList written) = some (textFields fields) := by
  rw [formObject?, not_hasTooManyFields encodes few, formFields_of_encodesForm encodes,
    fieldObject_of_nodup names]
  rfl

end JourneyCost.Service
