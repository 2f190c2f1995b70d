import JourneyCost.Text.Encoding
import Mathlib.Data.List.Basic
import Mathlib.Tactic.IntervalCases

/-!
# Texts that went through bytes

Each character has between one and four bytes, and reading these gives the character back whatever
follows, whether halves of surrogate pairs are let through or not.  So a text that was written as
bytes is read as the same text.
-/

namespace JourneyCost.Text

theorem toList_loop (bytes : ByteArray) (i : Nat) (read : Bytes) :
    ByteArray.toList.loop bytes i read = read.reverse ++ bytes.data.toList.drop i := by
  fun_induction ByteArray.toList.loop bytes i read with
  | case1 i read more induction =>
      have inside : i < bytes.data.toList.length := by simpa using more
      rw [induction, List.reverse_cons, List.append_assoc, List.drop_eq_getElem_cons inside]
      simp [ByteArray.get!, getElem!_pos bytes.data i (by simpa using more)]
  | case2 i read done =>
      have beyond : bytes.data.toList.length ≤ i := by simpa using done
      rw [List.drop_eq_nil_of_le beyond, List.append_nil]

theorem toBytes_eq (s : String) : toBytes s = s.toList.flatMap String.utf8EncodeChar := by
  rw [toBytes, String.toUTF8_eq_toByteArray, ← String.utf8Encode_toList, List.utf8Encode,
    ByteArray.toList, toList_loop]
  simp

section

variable {halves : Bool} {rest : Bytes} {n : Nat}

theorem charsFrom_cons (pending : Pending) (b : UInt8) :
    charsFrom halves pending (b :: rest) =
      (pending.next halves b.toNat).1 ++ charsFrom halves (pending.next halves b.toNat).2 rest :=
  rfl

/-- A byte that continues a character and does not end it. -/
theorem charsFrom_inner {missing bits least greatest : Nat} (byte : n < 256)
    (inside : least ≤ n ∧ n ≤ greatest) :
    charsFrom halves ⟨missing + 2, bits, least, greatest⟩ (UInt8.ofNat n :: rest) =
      charsFrom halves ⟨missing + 1, bits * 64 + n % 64, 0x80, 0xBF⟩ rest := by
  have value : (UInt8.ofNat n).toNat = n := by simp [byte]
  rw [charsFrom_cons, value]
  simp [Pending.next, inside]

/-- A byte that ends a character. -/
theorem charsFrom_last {bits least greatest : Nat} (byte : n < 256)
    (inside : least ≤ n ∧ n ≤ greatest) :
    charsFrom halves ⟨1, bits, least, greatest⟩ (UInt8.ofNat n :: rest) =
      some (charOfCode (bits * 64 + n % 64)) :: charsFrom halves .none rest := by
  have value : (UInt8.ofNat n).toNat = n := by simp [byte]
  rw [charsFrom_cons, value]
  simp [Pending.next, inside]

/-- A byte that begins a character and does not end it. -/
theorem charsFrom_first {pending : Pending} (byte : n < 256) (large : 0x80 ≤ n)
    (begun : Pending.begin? halves n = some pending) :
    charsFrom halves .none (UInt8.ofNat n :: rest) = charsFrom halves pending rest := by
  have value : (UInt8.ofNat n).toNat = n := by simp [byte]
  have notSmall : ¬ n < 0x80 := by omega
  rw [charsFrom_cons, value]
  simp [Pending.next, Pending.none, beginChar, notSmall, begun]

end

section

variable {halves : Bool} {rest : Bytes} {code : Nat}

theorem charsFrom_one (small : code < 0x80) :
    charsFrom halves .none (UInt8.ofNat code :: rest) =
      some (charOfCode code) :: charsFrom halves .none rest := by
  have value : (UInt8.ofNat code).toNat = code := by
    rw [UInt8.toNat_ofNat']
    omega
  have plain : charOfCode code = Char.ofNat code := by
    have notSurrogate : ¬ (0xD800 ≤ code ∧ code < 0xE000) := by omega
    simp [charOfCode, notSurrogate]
  rw [charsFrom_cons, value, plain]
  simp [Pending.next, Pending.none, beginChar, small]

theorem charsFrom_two (large : 0x80 ≤ code) (small : code < 0x800) :
    charsFrom halves .none (UInt8.ofNat (code / 64 % 32 + 192) ::
      UInt8.ofNat (code % 64 + 128) :: rest) =
      some (charOfCode code) :: charsFrom halves .none rest := by
  have begun : Pending.begin? halves (code / 64 % 32 + 192) =
      some ⟨1, code / 64, 0x80, 0xBF⟩ := by
    rw [Pending.begin?, if_pos (by simp; omega)]
    simp
    omega
  rw [charsFrom_first (by omega) (by omega) begun, charsFrom_last (by omega) (by omega)]
  congr 3
  omega

theorem charsFrom_three (large : 0x800 ≤ code) (small : code < 0x10000)
    (scalar : code < 0xD800 ∨ 0xDFFF < code) :
    charsFrom halves .none (UInt8.ofNat (code / 4096 % 16 + 224) ::
      UInt8.ofNat (code / 64 % 64 + 128) :: UInt8.ofNat (code % 64 + 128) :: rest) =
      some (charOfCode code) :: charsFrom halves .none rest := by
  obtain ⟨least, greatest, begun, inside⟩ : ∃ least greatest,
      Pending.begin? halves (code / 4096 % 16 + 224) = some ⟨2, code / 4096, least, greatest⟩ ∧
        least ≤ code / 64 % 64 + 128 ∧ code / 64 % 64 + 128 ≤ greatest := by
    have lead : code / 4096 % 16 = code / 4096 := by omega
    rw [lead]
    by_cases lowest : code / 4096 = 0
    · exact ⟨0xA0, 0xBF, by rw [lowest]; rfl, by omega, by omega⟩
    · by_cases highest : code / 4096 = 0xD
      · cases halves with
        | false => exact ⟨0x80, 0x9F, by rw [highest]; rfl, by omega, by omega⟩
        | true => exact ⟨0x80, 0xBF, by rw [highest]; rfl, by omega, by omega⟩
      · refine ⟨0x80, 0xBF, ?_, by omega, by omega⟩
        have bound : code / 4096 < 16 := by omega
        interval_cases code / 4096 <;> first | rfl | omega
  rw [charsFrom_first (by omega) (by omega) begun, charsFrom_inner (by omega) inside,
    charsFrom_last (by omega) (by omega)]
  congr 3
  omega

theorem charsFrom_four (large : 0x10000 ≤ code) (small : code < 0x110000) :
    charsFrom halves .none (UInt8.ofNat (code / 262144 % 8 + 240) ::
      UInt8.ofNat (code / 4096 % 64 + 128) :: UInt8.ofNat (code / 64 % 64 + 128) ::
      UInt8.ofNat (code % 64 + 128) :: rest) =
      some (charOfCode code) :: charsFrom halves .none rest := by
  obtain ⟨least, greatest, begun, inside⟩ : ∃ least greatest,
      Pending.begin? halves (code / 262144 % 8 + 240) =
          some ⟨3, code / 262144, least, greatest⟩ ∧
        least ≤ code / 4096 % 64 + 128 ∧ code / 4096 % 64 + 128 ≤ greatest := by
    have lead : code / 262144 % 8 = code / 262144 := by omega
    rw [lead]
    by_cases lowest : code / 262144 = 0
    · exact ⟨0x90, 0xBF, by rw [lowest]; rfl, by omega, by omega⟩
    · by_cases highest : code / 262144 = 4
      · exact ⟨0x80, 0x8F, by rw [highest]; rfl, by omega, by omega⟩
      · refine ⟨0x80, 0xBF, ?_, by omega, by omega⟩
        have bound : code / 262144 < 5 := by omega
        interval_cases code / 262144 <;> first | rfl | omega
  rw [charsFrom_first (by omega) (by omega) begun, charsFrom_inner (by omega) inside,
    charsFrom_inner (by omega) (by omega), charsFrom_last (by omega) (by omega)]
  congr 3
  omega

end

/-- The codes of characters are those below the surrogates and those above them. -/
theorem toNat_scalar (c : Char) :
    c.toNat < 0xD800 ∨ 0xDFFF < c.toNat ∧ c.toNat < 0x110000 := c.valid

theorem charOfCode_toNat (c : Char) : charOfCode c.toNat = c := by
  have scalar := toNat_scalar c
  have notSurrogate : ¬ (0xD800 ≤ c.toNat ∧ c.toNat < 0xE000) := by omega
  simp [charOfCode, notSurrogate]

/-- The bytes of a character are read as the character, whatever follows. -/
theorem charsFrom_utf8EncodeChar (halves : Bool) (c : Char) (rest : Bytes) :
    charsFrom halves .none (String.utf8EncodeChar c ++ rest) =
      some c :: charsFrom halves .none rest := by
  have scalar := toNat_scalar c
  have value : c.val.toNat = c.toNat := rfl
  simp only [String.utf8EncodeChar, value]
  split
  · rw [List.singleton_append, charsFrom_one (by omega), charOfCode_toNat]
  split
  · rw [List.cons_append, List.singleton_append, charsFrom_two (by omega) (by omega),
      charOfCode_toNat]
  split
  · rw [List.cons_append, List.cons_append, List.singleton_append,
      charsFrom_three (by omega) (by omega) (by omega), charOfCode_toNat]
  · rw [List.cons_append, List.cons_append, List.cons_append, List.singleton_append,
      charsFrom_four (by omega) (by omega), charOfCode_toNat]

theorem charsFrom_toBytes (halves : Bool) (s : String) :
    charsFrom halves .none (toBytes s) = s.toList.map some := by
  rw [toBytes_eq]
  induction s.toList with
  | nil => rfl
  | cons c more induction =>
      rw [List.flatMap_cons, charsFrom_utf8EncodeChar, induction, List.map_cons]

theorem mapM_charsFrom_toBytes (halves : Bool) (s : String) :
    (charsFrom halves .none (toBytes s)).mapM id = some s.toList := by
  rw [charsFrom_toBytes, List.mapM_map]
  exact (List.mapM_pure (m := Option) (f := id)).trans (congrArg some (List.map_id _))

/-- A text that was written as bytes is read as the same text. -/
theorem ofBytes?_toBytes (s : String) : ofBytes? (toBytes s) = some s := by
  rw [ofBytes?, mapM_charsFrom_toBytes, Option.map_some, String.ofList_toList]

/-- The bytes of a text are read as the text, also where broken characters are let through. -/
theorem ofBytesLossy_toBytes (s : String) : ofBytesLossy (toBytes s) = s := by
  rw [ofBytesLossy, charsFrom_toBytes, List.map_map]
  simp [Function.comp_def]

end JourneyCost.Text
