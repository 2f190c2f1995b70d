import JourneyCost.Charset.Reader

/-!
# Characters in units of two or four bytes

A unit of two bytes is a character, or the half of a pair that is one.  A unit of four bytes is
the code of a character.  A mark at the front may tell the order of the bytes in a unit.
-/

namespace JourneyCost.Charset

open Text

/-- The order of the bytes in a unit. -/
inductive ByteOrder where
  /-- The low byte comes first. -/
  | lowFirst
  /-- The high byte comes first. -/
  | highFirst

/-- The number with the given bytes, read to base 256. -/
def ByteOrder.unit (order : ByteOrder) (bytes : List Nat) : Nat :=
  match order with
  | .lowFirst => bytes.foldr (fun b n => n * 256 + b) 0
  | .highFirst => bytes.foldl (fun n b => n * 256 + b) 0

/-- Whether a unit is the first half of a pair. -/
def isFirstHalf (unit : Nat) : Bool := 0xD800 ≤ unit && unit < 0xDC00

/-- Whether a unit is the second half of a pair. -/
def isSecondHalf (unit : Nat) : Bool := 0xDC00 ≤ unit && unit < 0xE000

/-- The character with the given halves. -/
def charOfHalves (first second : Nat) : Char :=
  charOfCode (0x10000 + (first - 0xD800) * 1024 + (second - 0xDC00))

/-- The character at the front, in units of two bytes. -/
def readPair (order : ByteOrder) (b : Nat) (rest : Bytes) : Reading :=
  match rest with
  | [] => .short
  | c :: rest =>
    let unit := order.unit [b, c.toNat]
    if isSecondHalf unit then .wrong 1
    else if isFirstHalf unit then
      match rest with
      | d :: e :: _ =>
        let second := order.unit [d.toNat, e.toNat]
        if isSecondHalf second then .chars [charOfHalves unit second] 3 else .wrong 1
      | _ => .short
    else .chars [charOfCode unit] 1

/-- The character at the front, in units of four bytes. -/
def readQuad (order : ByteOrder) (b : Nat) (rest : Bytes) : Reading :=
  match rest with
  | c :: d :: e :: _ =>
    let unit := order.unit [b, c.toNat, d.toNat, e.toNat]
    if isFirstHalf unit || isSecondHalf unit || 0x110000 ≤ unit then .wrong 3
    else .chars [Char.ofNat unit] 3
  | _ => .short

/-- The characters in units of two bytes, with the low byte first unless a mark says otherwise. -/
def readPairs (bytes : Bytes) : List (Option Char) :=
  match bytes with
  | 0xFF :: 0xFE :: rest => readEach (readPair .lowFirst) rest
  | 0xFE :: 0xFF :: rest => readEach (readPair .highFirst) rest
  | bytes => readEach (readPair .lowFirst) bytes

/-- The characters in units of four bytes, with the low byte first unless a mark says otherwise. -/
def readQuads (bytes : Bytes) : List (Option Char) :=
  match bytes with
  | 0xFF :: 0xFE :: 0 :: 0 :: rest => readEach (readQuad .lowFirst) rest
  | 0 :: 0 :: 0xFE :: 0xFF :: rest => readEach (readQuad .highFirst) rest
  | bytes => readEach (readQuad .lowFirst) bytes

end JourneyCost.Charset
