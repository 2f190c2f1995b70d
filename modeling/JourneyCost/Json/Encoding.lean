import JourneyCost.Json.Reader
import JourneyCost.Text.Encoding

/-!
# Documents as bytes

A document in bytes declares its encoding by a byte order mark, or shows it by where its first
zero bytes are.  Without either it is UTF-8.
-/

namespace JourneyCost.Json

/-- An encoding of a document. -/
inductive Encoding where
  /-- Bytes of variable number. -/
  | utf8
  /-- Units of two bytes, the more significant one first or last. -/
  | utf16 (bigEndian : Bool)
  /-- Units of four bytes, the most significant one first or last. -/
  | utf32 (bigEndian : Bool)
deriving DecidableEq, Repr

/-- The encoding that the zeros among the first bytes show. -/
def encodingByZeros (bytes : Bytes) : Encoding :=
  match bytes with
  | [a, b] => if a == 0 then .utf16 true else if b == 0 then .utf16 false else .utf8
  | a :: b :: c :: d :: _ =>
    if a == 0 then if b == 0 then .utf32 true else .utf16 true
    else if b == 0 then if c == 0 && d == 0 then .utf32 false else .utf16 false
    else .utf8
  | _ => .utf8

/-- The encoding of a document, and its bytes without a byte order mark. -/
def detectEncoding (bytes : Bytes) : Encoding × Bytes :=
  match bytes with
  | 0x00 :: 0x00 :: 0xFE :: 0xFF :: rest => (.utf32 true, rest)
  | 0xFF :: 0xFE :: 0x00 :: 0x00 :: rest => (.utf32 false, rest)
  | 0xFE :: 0xFF :: rest => (.utf16 true, rest)
  | 0xFF :: 0xFE :: rest => (.utf16 false, rest)
  | 0xEF :: 0xBB :: 0xBF :: rest => (.utf8, rest)
  | _ => (encodingByZeros bytes, bytes)

/-- Units of two bytes; none if a byte is left over. -/
def units16? (bigEndian : Bool) : Bytes → Option (List Nat)
  | [] => some []
  | a :: b :: rest =>
    let unit := if bigEndian then a.toNat * 256 + b.toNat else b.toNat * 256 + a.toNat
    (units16? bigEndian rest).map (unit :: ·)
  | _ => none

/-- Codes of four bytes; none if bytes are left over or a code is out of range. -/
def codes32? (bigEndian : Bool) : Bytes → Option (List Nat)
  | [] => some []
  | a :: b :: c :: d :: rest =>
    let (low, high) :=
      if bigEndian then (c.toNat * 256 + d.toNat, a.toNat * 256 + b.toNat)
      else (b.toNat * 256 + a.toNat, d.toNat * 256 + c.toNat)
    let code := high * 65536 + low
    if 0x10FFFF < code then none else (codes32? bigEndian rest).map (code :: ·)
  | _ => none

/-- The characters of a document in bytes.  Halves of surrogate pairs are let through. -/
def decodeText? (encoding : Encoding) (bytes : Bytes) : Option (List Char) :=
  match encoding with
  | .utf8 => (Text.charsFrom true .none bytes).mapM id
  | .utf16 bigEndian => (units16? bigEndian bytes).map joinSurrogates
  | .utf32 bigEndian => (codes32? bigEndian bytes).map (·.map Text.charOfCode)

/-- The document that a sequence of bytes holds, however deeply it is nested. -/
def readBytes (bytes : Bytes) : Except Fault Json :=
  let (encoding, rest) := detectEncoding bytes
  match decodeText? encoding rest with
  | some cs => ofTokens (tokens cs)
  | none => .error .malformedText

end JourneyCost.Json
