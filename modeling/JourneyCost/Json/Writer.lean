import JourneyCost.Json.Value
import JourneyCost.Decimal.Writing

/-!
# Writing documents

A document is written in basic Latin characters, all others escaped.  `compact` writes it without
blanks, `pretty` with one item to a line and two blanks of indentation for each level.  Members
come in the order they have; `sorted` puts those of every object in order of their names.
-/

namespace JourneyCost.Json

/-- A hexadecimal digit. -/
def hexChar (n : Nat) : Char := if n < 10 then Char.ofNat (48 + n) else Char.ofNat (87 + n)

/-- The escape of a code below 65536. -/
def escapeUnit (unit : Nat) : List Char :=
  ['\\', 'u', hexChar (unit / 4096), hexChar (unit / 256 % 16), hexChar (unit / 16 % 16),
    hexChar (unit % 16)]

/-- A character inside quotes. -/
def escapeChar (c : Char) : List Char :=
  if c == '"' then ['\\', '"']
  else if c == '\\' then ['\\', '\\']
  else if c == '\n' then ['\\', 'n']
  else if c == '\r' then ['\\', 'r']
  else if c == '\t' then ['\\', 't']
  else if c == '\x08' then ['\\', 'b']
  else if c == '\x0c' then ['\\', 'f']
  else if 32 ≤ c.toNat && c.toNat < 127 then [c]
  else if c.toNat < 0x10000 then escapeUnit c.toNat
  else
    let offset := c.toNat - 0x10000
    escapeUnit (0xD800 + offset / 1024) ++ escapeUnit (0xDC00 + offset % 1024)

/-- A text in quotes. -/
def quote (s : String) : List Char := '"' :: s.toList.flatMap escapeChar ++ ['"']

/-- An integer in digits. -/
def intText (n : Int) : List Char :=
  if n < 0 then '-' :: Nat.toDigits 10 n.natAbs else Nat.toDigits 10 n.natAbs

/-- The blanks of a layout. -/
structure Layout where
  /-- What stands before an item at a depth of nesting. -/
  gap : Nat → List Char
  /-- What stands between the name of a member and its value. -/
  colon : List Char

/-- No blanks at all. -/
def Layout.compact : Layout := ⟨fun _ => [], [':']⟩

/-- One item to a line, two blanks for each level. -/
def Layout.pretty : Layout := ⟨fun depth => '\n' :: List.replicate (2 * depth) ' ', [':', ' ']⟩

mutual

/-- A document at a depth of nesting. -/
def write (layout : Layout) (depth : Nat) : Json → List Char
  | null => "null".toList
  | bool value => (if value then "true" else "false").toList
  | int value => intText value
  | float value => (Decimal.Style.document.write value).toList
  | text value => quote value
  | list [] => ['[', ']']
  | list (first :: more) =>
    '[' :: layout.gap (depth + 1) ++ write layout (depth + 1) first ++
      writeItems layout (depth + 1) more ++ layout.gap depth ++ [']']
  | object [] => ['\x7b', '\x7d']
  | object ((key, value) :: more) =>
    '\x7b' :: layout.gap (depth + 1) ++ quote key ++ layout.colon ++
      write layout (depth + 1) value ++ writeFields layout (depth + 1) more ++
      layout.gap depth ++ ['\x7d']

/-- The further items of a list. -/
def writeItems (layout : Layout) (depth : Nat) : List Json → List Char
  | [] => []
  | value :: more =>
    ',' :: layout.gap depth ++ write layout depth value ++ writeItems layout depth more

/-- The further members of an object. -/
def writeFields (layout : Layout) (depth : Nat) : Fields → List Char
  | [] => []
  | (key, value) :: more =>
    ',' :: layout.gap depth ++ quote key ++ layout.colon ++ write layout depth value ++
      writeFields layout depth more

end

mutual

/-- The same document with the members of every object in order of their names. -/
def sorted : Json → Json
  | list items => list (sortedItems items)
  | object fields => object ((sortedFields fields).mergeSort fun a b => !decide (b.1 < a.1))
  | value => value

/-- Items with their members in order. -/
def sortedItems : List Json → List Json
  | [] => []
  | value :: more => sorted value :: sortedItems more

/-- Members with the members inside them in order. -/
def sortedFields : Fields → Fields
  | [] => []
  | (key, value) :: more => (key, sorted value) :: sortedFields more

end

/-- A document without blanks, members in order of their names. -/
def compact (value : Json) : String := String.ofList (write .compact 0 value.sorted)

/-- A document over several lines, members in order of their names. -/
def pretty (value : Json) : String := String.ofList (write .pretty 0 value.sorted)

end JourneyCost.Json
