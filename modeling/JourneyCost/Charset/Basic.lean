import JourneyCost.Charset.Reader
import JourneyCost.Fault

/-!
# Character sets

A character set reads bytes as a text in two ways: one puts a replacement mark where bytes make no
sense, the other refuses them.  Many sets have a chart with one cell for each byte; national sets
have a grid of ninety-four rows with ninety-four cells each, both counted from one.
-/

namespace JourneyCost

/-- A character set. -/
structure Charset where
  /-- The name. -/
  name : String
  /-- Further names. -/
  aliases : List String
  /-- The text with the given bytes, with a mark in place of those that make no sense. -/
  read : Bytes → Except Fault String
  /-- The text with the given bytes, which must all make sense. -/
  readExact : Bytes → Except Fault String

namespace Charset

open Text

/-- A set that can pass over bytes that make no sense. -/
def lossy (name : String) (aliases : List String) (chars : Bytes → List (Option Char)) :
    Charset where
  name := name
  aliases := aliases
  read bytes := .ok (String.ofList ((chars bytes).map (·.getD replacement)))
  readExact bytes :=
    match (chars bytes).mapM id with
    | some cs => .ok (String.ofList cs)
    | none => .error .malformedText

/-- The empty text for no bytes. -/
def readNone (fault : Fault) (bytes : Bytes) : Except Fault String :=
  if bytes.isEmpty then .ok "" else .error fault

/-- A set that reads no bytes but none at all. -/
def refusing (name : String) (aliases : List String) (fault : Fault) : Charset :=
  ⟨name, aliases, readNone fault, readNone fault⟩

/-- The characters of a chart, line after line. -/
def chartCells (lines : List String) : Array Char := (lines.flatMap String.toList).toArray

/-- The character in a cell, unless there is a replacement mark. -/
def cell? (cells : Array Char) (n : Nat) : Option Char :=
  cells[n]?.filter (· != replacement)

/-- The character of a byte in a set with a chart of the bytes from `first` on, unless the chart has
a replacement mark for it. -/
def chartChar? (first : Nat) (cells : Array Char) (b : Nat) : Option Char :=
  if b < first then some (Char.ofNat b)
  else (some (cells.getD (b - first) (Char.ofNat b))).filter (· != replacement)

/-- A set with a byte for each character.  The chart tells the characters of the bytes from `first`
on; a byte before or after the chart is the code of its character. -/
def ofChart (name : String) (aliases : List String) (first : Nat) (lines : List String) :
    Charset :=
  let cells := chartCells lines
  lossy name aliases fun bytes => bytes.map fun b => chartChar? first cells b.toNat

/-- The cells of a grid; a row may end early. -/
def gridCells (rows : List String) : Array Char :=
  (rows.flatMap fun row => (row.toList ++ List.replicate 94 replacement).take 94).toArray

/-- The character in a cell of a row. -/
def gridCell? (cells : Array Char) (row cell : Nat) : Option Char :=
  if 1 ≤ row && 1 ≤ cell && cell ≤ 94 then cell? cells ((row - 1) * 94 + (cell - 1)) else none

/-- The characters of two bytes that are row and cell, each with a margin before it. -/
def gridPair? (cells : Array Char) (margin b c : Nat) : Option (List Char) :=
  if margin ≤ b && margin ≤ c then (gridCell? cells (b - margin) (c - margin)).map ([·]) else none

/-- The characters at the front: a basic byte, or a pair of bytes. -/
def readTwo (pair? : Nat → Nat → Option (List Char)) (b : Nat) (rest : Bytes) : Reading :=
  if b < 128 then .chars [Char.ofNat b] 0
  else
    match rest with
    | [] => .short
    | c :: _ =>
      match pair? b c.toNat with
      | some chars => .chars chars 1
      | none => .wrong 0

end Charset

end JourneyCost
