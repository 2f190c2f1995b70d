import JourneyCost.Json.Value
import JourneyCost.Decimal.Writing
import JourneyCost.Text.Printable

/-!
# Documents shown in a line of prose

A name in a data set may be any document.  A text is shown as it stands; inside a list or object
it is put in single quotes, or in double quotes if it holds single quotes only.
-/

namespace JourneyCost.Json

/-- Hexadecimal digits of a code, to a fixed width. -/
def hexDigits (width code : Nat) : List Char :=
  Decimal.padLeft width (Nat.toDigits 16 code)

/-- A character inside the given quotes. -/
def shownChar (mark : Char) (c : Char) : List Char :=
  if c == mark || c == '\\' then ['\\', c]
  else if c == '\t' then ['\\', 't']
  else if c == '\n' then ['\\', 'n']
  else if c == '\r' then ['\\', 'r']
  else if Text.isPrintable c then [c]
  else if c.toNat < 0x100 then '\\' :: 'x' :: hexDigits 2 c.toNat
  else if c.toNat < 0x10000 then '\\' :: 'u' :: hexDigits 4 c.toNat
  else '\\' :: 'U' :: hexDigits 8 c.toNat

/-- A text in quotes. -/
def shownText (s : String) : String :=
  let cs := s.toList
  let mark := if cs.contains '\'' && !cs.contains '"' then '"' else '\''
  String.ofList (mark :: cs.flatMap (shownChar mark) ++ [mark])

mutual

/-- A document as a part of another one. -/
def shown : Json → String
  | null => "None"
  | bool value => if value then "True" else "False"
  | int value => toString value
  | float value => Decimal.Style.plain.write value
  | text value => shownText value
  | list [] => "[]"
  | list (first :: more) => "[" ++ shown first ++ shownItems more ++ "]"
  | object [] => "\x7b\x7d"
  | object ((key, value) :: more) =>
    "\x7b" ++ shownText key ++ ": " ++ shown value ++ shownFields more ++ "\x7d"

/-- The further items of a list. -/
def shownItems : List Json → String
  | [] => ""
  | value :: more => ", " ++ shown value ++ shownItems more

/-- The further members of an object. -/
def shownFields : Fields → String
  | [] => ""
  | (key, value) :: more => ", " ++ shownText key ++ ": " ++ shown value ++ shownFields more

end

/-- A document as a line of its own. -/
def display : Json → String
  | text value => value
  | value => shown value

end JourneyCost.Json
