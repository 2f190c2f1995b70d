import JourneyCost.Decimal.Numeral
import JourneyCost.Decimal.Writing

/-!
# Columns

A column has one kind, which its fields decide together: truth values, integers, floats, or texts.
Integers next to floats count as floats; any other mixture is a column of texts.  A field is shown
in the common form of its kind.
-/

namespace JourneyCost.Table

/-- The kind of a column. -/
inductive Kind where
  /-- Truth values. -/
  | bool
  /-- Integers. -/
  | int
  /-- Floats. -/
  | float
  /-- Texts. -/
  | text
deriving DecidableEq, Repr

/-- Whether a text is `true` or `false`, in capitals or small letters. -/
def isTruthText (cs : List Char) : Bool :=
  let small := cs.map Char.toLower
  small == "true".toList || small == "false".toList

/-- Whether a character suggests a number: a decimal digit of any script. -/
def suggestsDigit (c : Char) : Bool := Decimal.isDigit c || Text.isDecimalDigit c

/-- Whether a text is an integer: digits, perhaps after a minus sign. -/
def isIntText (cs : List Char) : Bool :=
  let digits := match cs with
    | '-' :: rest => rest
    | rest => rest
  !digits.isEmpty && digits.all suggestsDigit

/-- Whether a text is an exponent, or nothing. -/
def isExponentText (mayBeEmpty : Bool) : List Char → Bool
  | [] => mayBeEmpty
  | c :: rest =>
    let digits := (Decimal.splitSign rest).2
    (c == 'e' || c == 'E') && !digits.isEmpty && digits.all suggestsDigit

/-- Whether a text without sign is a float: with a point, with an exponent, or a word. -/
def isUnsignedFloatText (cs : List Char) : Bool :=
  let whole := cs.takeWhile suggestsDigit
  match cs.dropWhile suggestsDigit with
  | '.' :: tail =>
    let fraction := tail.takeWhile suggestsDigit
    if fraction.isEmpty then !whole.isEmpty && tail.isEmpty
    else isExponentText true (tail.dropWhile suggestsDigit)
  | tail =>
    cs == "inf".toList || cs == "NaN".toList || (!whole.isEmpty && isExponentText false tail)

/-- The kind that one field suggests. -/
def kindOfText (s : String) : Kind :=
  let cs := s.toList
  if isTruthText cs then .bool
  else if isUnsignedFloatText (Decimal.splitSign cs).2 then .float
  else if isIntText cs then .int
  else .text

/-- The kind of two fields together. -/
def Kind.join : Kind → Kind → Kind
  | .int, .float => .float
  | .float, .int => .float
  | a, b => if a = b then a else .text

/-- The kind of a column whose fields suggest some kinds. -/
def Kind.joinAll : List Kind → Kind
  | [] => .text
  | first :: more => more.foldl Kind.join first

/-- The kind that holds the values of two kinds, for columns that are put together. -/
def Kind.cover : Kind → Kind → Kind
  | .bool, .int => .int
  | .int, .bool => .int
  | .bool, .float => .float
  | .float, .bool => .float
  | a, b => a.join b

/-- Integers in a column lie below this bound, and not below its negation. -/
def intBound : Int := Decimal.twoTo 127

/-- The integer in a text: basic digits, perhaps after a minus sign. -/
def intOf? (s : String) : Option Int :=
  let (negative, digits) :=
    match s.toList with
    | '-' :: rest => (true, rest)
    | rest => (false, rest)
  let size : Int := Decimal.ofDigits digits
  let value := if negative then -size else size
  if digits.isEmpty || !digits.all Decimal.isDigit || value < -intBound || intBound ≤ value then
    none
  else some value

/-- The truth value in a text. -/
def truthOf (s : String) : Bool := s.toList.map Char.toLower == "true".toList

/-- Whether a field holds a value of the kind. -/
def Kind.holds (kind : Kind) (s : String) : Bool :=
  match kind with
  | .text => true
  | .bool => isTruthText s.toList
  | .int => (intOf? s).isSome
  | .float => (Decimal.readCell? s).isSome

/-- A field as a text. -/
def Kind.toText (kind : Kind) (s : String) : String :=
  match kind with
  | .text => s
  | .bool => if truthOf s then "true" else "false"
  | .int => toString ((intOf? s).getD 0)
  | .float => ((Decimal.readCell? s).map Decimal.Style.cell.write).getD ""

/-- An integer as the nearest float. -/
def floatOfInt (n : Int) : Float := Decimal.nearest (n < 0) n.natAbs 1

/-- A field as a float, if it can be read as one. -/
def Kind.toFloat? (kind : Kind) (s : String) : Option Float :=
  match kind with
  | .bool => some (if truthOf s then 1 else 0)
  | .int => (intOf? s).map floatOfInt
  | _ => Decimal.readCell? s

/-- A column. -/
structure Column where
  /-- The kind of its fields. -/
  kind : Kind
  /-- Its fields. -/
  fields : List (Option String)

/-- The fields as texts. -/
def Column.texts (column : Column) : List (Option String) :=
  column.fields.map (·.map column.kind.toText)

/-- The fields as floats. -/
def Column.floats (column : Column) : List (Option Float) :=
  column.fields.map (·.bind column.kind.toFloat?)

end JourneyCost.Table
