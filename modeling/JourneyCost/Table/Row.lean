import JourneyCost.Text.Encoding

/-!
# Rows of a table in text form

A row is a line of fields with commas between them.  A field that begins with a quote may hold
commas and line ends up to the next quote, and so on in turn; in other fields a quote is a
character like any other.
-/

namespace JourneyCost.Table

/-- A field as it is written. -/
abbrev RawField := Bytes

/-- A row as it is written. -/
structure RawRow where
  /-- Its fields. -/
  fields : List RawField
  /-- Whether a line end follows. -/
  isEnded : Bool

/-- The quote. -/
def quoteByte : UInt8 := 34

/-- The comma. -/
def commaByte : UInt8 := 44

/-- The line feed. -/
def lineFeed : UInt8 := 10

/-- The carriage return. -/
def carriageReturn : UInt8 := 13

/-- Where the reader stands in a field. -/
inductive Spot where
  /-- At its start. -/
  | start
  /-- In a field without quotes. -/
  | bare
  /-- In a field that begins with a quote, inside or outside a pair of quotes. -/
  | quoted (inside : Bool)
deriving DecidableEq, Repr

/-- The place after a byte that ends no field. -/
def Spot.next (b : UInt8) : Spot → Spot
  | .start => if b == quoteByte then .quoted true else .bare
  | .bare => .bare
  | .quoted inside => .quoted (inside != (b == quoteByte))

/-- The reader of rows; what it read is listed backwards. -/
structure RowReader where
  /-- The place in the field in progress. -/
  spot : Spot
  /-- The field in progress. -/
  field : RawField
  /-- The complete fields of the row in progress. -/
  fields : List RawField
  /-- The complete rows. -/
  rows : List RawRow

namespace RowReader

/-- The reader before the first row. -/
def begin : RowReader := ⟨.start, [], [], []⟩

/-- The fields of the row in progress. -/
def rowFields (reader : RowReader) : List RawField :=
  (reader.field.reverse :: reader.fields).reverse

/-- The reader after a byte. -/
def next (reader : RowReader) (b : UInt8) : RowReader :=
  if reader.spot != .quoted true && b == commaByte then
    { reader with spot := .start, field := [], fields := reader.field.reverse :: reader.fields }
  else if reader.spot != .quoted true && b == lineFeed then
    ⟨.start, [], [], ⟨reader.rowFields, true⟩ :: reader.rows⟩
  else { reader with spot := reader.spot.next b, field := b :: reader.field }

/-- All rows, with the one in progress as the last. -/
def finish (reader : RowReader) : List RawRow :=
  if reader.field.isEmpty && reader.fields.isEmpty then reader.rows.reverse
  else (⟨reader.rowFields, false⟩ :: reader.rows).reverse

end RowReader

/-- The rows of a text. -/
def rowsOf (bytes : Bytes) : List RawRow := (bytes.foldl RowReader.next .begin).finish

/-- Bytes before the first line end that has an even number of quotes before it, and those after
it. -/
def cutLine (odd : Bool) : Bytes → Bytes × Bytes
  | [] => ([], [])
  | b :: rest =>
    if b == lineFeed && !odd then ([], rest)
    else
      let (line, after) := cutLine (odd != (b == quoteByte)) rest
      (b :: line, after)

/-- The number of line ends that have an even number of quotes before them. -/
def lineEnds (bytes : Bytes) : Nat :=
  (bytes.foldl (fun (count, odd) b =>
    (if b == lineFeed && !odd then count + 1 else count, odd != (b == quoteByte)))
    (0, false)).1

/-- The number of lines: a last one without line end counts. -/
def lineCount (bytes : Bytes) : Nat :=
  lineEnds bytes + (if bytes.getLast?.any (· != lineFeed) then 1 else 0)

/-- A field or a line without one carriage return at its end. -/
def dropReturn (bytes : Bytes) : Bytes :=
  if bytes.getLast? == some carriageReturn then bytes.dropLast else bytes

/-- Bytes between quotes, in which a quote is written twice. -/
def undouble (after : Bool) : Bytes → Bytes
  | [] => []
  | b :: rest =>
    if b == quoteByte then if after then b :: undouble false rest else undouble true rest
    else b :: undouble false rest

/-- Whether a field begins with a quote. -/
def isQuoted (field : RawField) : Bool := field.head? == some quoteByte

/-- Whether a field that begins with a quote ends with another one. -/
def isClosed (field : RawField) : Bool :=
  2 ≤ field.length && field.getLast? == some quoteByte

/-- What a field holds between its quotes, if it has any. -/
def innerPart (field : RawField) : Bytes :=
  if isQuoted field && 2 ≤ field.length then (field.drop 1).dropLast else field

/-- The fields as they suggest kinds: the carriage return before a line end is no part of them,
unless the line is nothing else. -/
def RawRow.samples (row : RawRow) : List RawField :=
  match row.fields.reverse with
  | [] => []
  | last :: before =>
    if before.isEmpty && last.length ≤ 1 then row.fields
    else (dropReturn last :: before).reverse

end JourneyCost.Table
