import JourneyCost.Fault
import JourneyCost.Table.Column
import JourneyCost.Table.Row

/-!
# Tables in text form

A table is a text of rows with a header as its first row.  A field that is missing, or empty
without quotes, holds nothing.  A table may come in parts, each with the same header; a column
then has the kind that holds the values of all parts.
-/

namespace JourneyCost.Table

/-- A part of a table, with its fields as they are written. -/
structure Draft where
  /-- The names of the columns. -/
  header : List String
  /-- The kinds of the columns. -/
  kinds : List Kind
  /-- The rows. -/
  rows : List (List RawField)

/-- A table. -/
structure Sheet where
  /-- The names of the columns. -/
  header : List String
  /-- The columns. -/
  columns : List Column

/-- The text of bytes in a table. -/
def tableText (bytes : Bytes) : Except Fault String :=
  (Text.ofBytes? bytes).elim (.error .malformedTable) .ok

/-- The kind that a field suggests, if it holds something. -/
def suggestedKind? (field : RawField) : Except Fault (Option Kind) :=
  if field.isEmpty then .ok none
  else do return some (kindOfText (← tableText (innerPart field)))

/-- So many rows decide the kinds of the columns. -/
def sampleSize : Nat := 5000

/-- The kind of the column at a place. -/
def kindAt (rows : List RawRow) (place : Nat) : Except Fault Kind := do
  let kinds ← (rows.take sampleSize).mapM fun row =>
    suggestedKind? ((row.samples[place]?).getD [])
  return Kind.joinAll (kinds.filterMap id)

/-- A row with an empty field for each one that is missing.  A row has no more fields than the
header, but an empty one at the end of the text is passed over. -/
def fillRow (width : Nat) (row : RawRow) : Except Fault (List RawField) :=
  let surplus := row.fields.drop width
  if surplus.isEmpty || (!row.isEnded && surplus == [[]]) then
    .ok (row.fields.take width ++ List.replicate (width - row.fields.length) [])
  else .error .malformedTable

/-- The name of a column. -/
def columnName (field : RawField) : String := Text.ofBytesLossy (innerPart field)

/-- The names in a header line. -/
def headerNames (line : Bytes) : List String :=
  match rowsOf (if 1 < line.length then dropReturn line else line) with
  | row :: _ => row.fields.map columnName
  | [] => []

/-- A text without the byte order mark and the line ends that it begins with. -/
def dropPreamble (bytes : Bytes) : Bytes :=
  let isLineEnd := fun b => b == lineFeed || b == carriageReturn
  match bytes with
  | 0xEF :: 0xBB :: 0xBF :: rest => rest.dropWhile isLineEnd
  | _ => bytes.dropWhile isLineEnd

/-- The part of a table in a text.  Its lines must be as many as its rows: a quote in a field
without quotes must have another one in its line. -/
def Draft.ofBytes (bytes : Bytes) : Except Fault Draft := do
  let text := dropPreamble bytes
  if text.isEmpty then throw .emptyTable
  let (line, body) := cutLine false text
  let header := headerNames line
  let rows := rowsOf body
  if lineCount body != rows.length then throw .malformedTable
  return ⟨header, ← (List.range header.length).mapM (kindAt rows),
    ← rows.mapM (fillRow header.length)⟩

/-- Two parts of a table together. -/
def Draft.append (first second : Draft) : Except Fault Draft :=
  if first.header != second.header then .error .malformedTable
  else .ok ⟨first.header, List.zipWith Kind.cover first.kinds second.kinds,
    first.rows ++ second.rows⟩

/-- The bytes that a field holds. -/
def contentBytes (kind : Kind) (field : RawField) : Except Fault Bytes :=
  if !isQuoted field then .ok field
  else if kind != .text then .ok (innerPart field)
  else if isClosed field then .ok (undouble false (innerPart field))
  else .error .malformedTable

/-- What a field of a column holds. -/
def content (kind : Kind) (field : RawField) : Except Fault (Option String) := do
  let written := dropReturn field
  if written.isEmpty then return none
  let s ← tableText (← contentBytes kind written)
  if kind.holds s then return some s else throw .malformedTable

/-- The column at a place. -/
def Draft.column (draft : Draft) (place : Nat) (kind : Kind) : Except Fault Column := do
  return ⟨kind, ← draft.rows.mapM fun row => content kind ((row[place]?).getD [])⟩

/-- The table of which a draft is the whole. -/
def Draft.sheet (draft : Draft) : Except Fault Sheet := do
  return ⟨draft.header, ← draft.kinds.zipIdx.mapM fun entry => draft.column entry.2 entry.1⟩

/-- The table whose parts are given. -/
def Sheet.ofParts (parts : List Bytes) : Except Fault Sheet := do
  match ← parts.mapM Draft.ofBytes with
  | [] => throw .emptyTable
  | first :: more => (← more.foldlM Draft.append first).sheet

/-- The first column with a name. -/
def Sheet.column? (sheet : Sheet) (name : String) : Option Column := do
  let place ← sheet.header.idxOf? name
  sheet.columns[place]?

/-- The number of rows. -/
def Sheet.height (sheet : Sheet) : Nat :=
  (sheet.columns.head?.map fun column => column.fields.length).getD 0

end JourneyCost.Table
