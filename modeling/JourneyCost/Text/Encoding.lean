/-!
# Texts as bytes

Bytes are read as UTF-8 one at a time: a byte starts a character, continues one, or breaks the
character in progress.  A strict reading refuses broken characters, a lossy one puts a replacement
mark in place of each.
-/

namespace JourneyCost

/-- A sequence of bytes. -/
abbrev Bytes := List UInt8

namespace Text

/-- The bytes of a text. -/
def toBytes (s : String) : Bytes := s.toUTF8.toList

/-- The mark in place of what is no character. -/
def replacement : Char := '\ufffd'

/-- The character with a code; the half of a surrogate pair is no character. -/
def charOfCode (code : Nat) : Char :=
  if 0xD800 ≤ code && code < 0xE000 then replacement else Char.ofNat code

/-- A character in progress. -/
structure Pending where
  /-- Number of bytes to come. -/
  missing : Nat
  /-- The bits read so far. -/
  bits : Nat
  /-- The least byte that may come next. -/
  least : Nat
  /-- The greatest byte that may come next. -/
  greatest : Nat

/-- No character in progress. -/
def Pending.none : Pending := ⟨0, 0, 0, 0⟩

/-- What a first byte begins; `halves` admits the halves of surrogate pairs. -/
def Pending.begin? (halves : Bool) (b : Nat) : Option Pending :=
  if 0xC2 ≤ b && b ≤ 0xDF then some ⟨1, b - 0xC0, 0x80, 0xBF⟩
  else if b == 0xE0 then some ⟨2, 0, 0xA0, 0xBF⟩
  else if b == 0xED && !halves then some ⟨2, 0xD, 0x80, 0x9F⟩
  else if 0xE1 ≤ b && b ≤ 0xEF then some ⟨2, b - 0xE0, 0x80, 0xBF⟩
  else if b == 0xF0 then some ⟨3, 0, 0x90, 0xBF⟩
  else if 0xF1 ≤ b && b ≤ 0xF3 then some ⟨3, b - 0xF0, 0x80, 0xBF⟩
  else if b == 0xF4 then some ⟨3, 4, 0x80, 0x8F⟩
  else Option.none

/-- What a byte outside a character gives, and what it begins. -/
def beginChar (halves : Bool) (b : Nat) : List (Option Char) × Pending :=
  if b < 0x80 then ([some (Char.ofNat b)], .none)
  else
    match Pending.begin? halves b with
    | some pending => ([], pending)
    | Option.none => ([Option.none], .none)

/-- What a byte gives, and what it leaves in progress. -/
def Pending.next (halves : Bool) (pending : Pending) (b : Nat) :
    List (Option Char) × Pending :=
  if pending.missing == 0 then beginChar halves b
  else if pending.least ≤ b && b ≤ pending.greatest then
    let bits := pending.bits * 64 + b % 64
    if pending.missing == 1 then ([some (charOfCode bits)], .none)
    else ([], ⟨pending.missing - 1, bits, 0x80, 0xBF⟩)
  else
    let (chars, begun) := beginChar halves b
    (Option.none :: chars, begun)

/-- The characters of a sequence of bytes, with nothing in place of a broken one. -/
def charsFrom (halves : Bool) (pending : Pending) : Bytes → List (Option Char)
  | [] => if pending.missing == 0 then [] else [Option.none]
  | b :: rest =>
    let (chars, after) := pending.next halves b.toNat
    chars ++ charsFrom halves after rest

/-- The text with the given bytes, if no character is broken. -/
def ofBytes? (bytes : Bytes) : Option String :=
  ((charsFrom false .none bytes).mapM id).map String.ofList

/-- The text with the given bytes, with a mark in place of each broken character. -/
def ofBytesLossy (bytes : Bytes) : String :=
  String.ofList ((charsFrom false .none bytes).map (·.getD replacement))

end Text

end JourneyCost
