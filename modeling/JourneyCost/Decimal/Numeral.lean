import JourneyCost.Decimal.Shortest
import JourneyCost.Fault
import JourneyCost.Text.Blank
import JourneyCost.Text.Digit

/-!
# Reading numbers

A decimal numeral is a sign, digits with at most one point, and a power of ten; it is read as the
nearest float.  There are words for the infinities and for what is not a number.  The three readers
differ in the digits and the low lines that they allow.
-/

namespace JourneyCost.Decimal

/-- The number `digits * 10 ^ scale`, negated or not. -/
structure Numeral where
  /-- Whether a minus sign stands in front. -/
  negative : Bool
  /-- All digits, without the point. -/
  digits : Nat
  /-- The power of ten that they count. -/
  scale : Int
deriving DecidableEq, Repr

/-- The float nearest to a numeral. -/
def Numeral.toFloat (n : Numeral) : Float :=
  let place := (digitCount n.digits : Int) + n.scale
  if n.digits == 0 || place < -330 then nearest n.negative 0 1
  else if 310 < place then nearest n.negative (twoTo 1024) 1
  else nearest n.negative (n.digits * tenTo n.scale.toNat) (tenTo (-n.scale).toNat)

/-- Whether a character is a basic digit. -/
def isDigit (c : Char) : Bool := '0' ≤ c && c ≤ '9'

/-- The natural number with the given basic digits. -/
def ofDigits (cs : List Char) : Nat := cs.foldl (fun n c => 10 * n + (c.toNat - 48)) 0

/-- A text split after its leading sign. -/
def splitSign : List Char → Bool × List Char
  | '-' :: rest => (true, rest)
  | '+' :: rest => (false, rest)
  | rest => (false, rest)

/-- An exponent that ends the text: a sign and at least one digit. -/
def exponent? (cs : List Char) : Option Int :=
  let (negative, digits) := splitSign cs
  if digits.isEmpty || !digits.all isDigit then none
  else some (if negative then -(ofDigits digits : Int) else ofDigits digits)

/-- What follows the digits of a numeral: nothing, or an exponent. -/
def scaleSuffix? : List Char → Option Int
  | [] => some 0
  | c :: rest => if c == 'e' || c == 'E' then exponent? rest else none

/-- An unsigned numeral: digits with at most one point, and perhaps an exponent. -/
def unsigned? (negative : Bool) (cs : List Char) : Option Numeral :=
  let whole := cs.takeWhile isDigit
  let (fraction, rest) :=
    match cs.dropWhile isDigit with
    | '.' :: tail => (tail.takeWhile isDigit, tail.dropWhile isDigit)
    | tail => ([], tail)
  if whole.isEmpty && fraction.isEmpty then none
  else
    (scaleSuffix? rest).map fun scale =>
      ⟨negative, ofDigits (whole ++ fraction), scale - fraction.length⟩

/-- Positive infinity. -/
def infinity : Float := nearest false (twoTo 1024) 1

/-- The value that is not a number. -/
def undefinedFloat : Float := Float.ofBits 0x7FF8000000000000

/-- A word for a value that is not finite, in capitals or small letters. -/
def word? (negative : Bool) (cs : List Char) : Option Float :=
  let small := cs.map Char.toLower
  if small == "inf".toList || small == "infinity".toList then
    some (if negative then -infinity else infinity)
  else if small == "nan".toList then some undefinedFloat
  else none

/-- A signed numeral or word. -/
def signedFloat? (cs : List Char) : Option Float :=
  let (negative, rest) := splitSign cs
  match word? negative rest with
  | some x => some x
  | none => (unsigned? negative rest).map Numeral.toFloat

/-- A text without its low lines, each of which must stand between two digits. -/
def dropLowLines? (before : Char) : List Char → Option (List Char)
  | [] => if before == '_' then none else some []
  | c :: rest =>
    if c == '_' then if isDigit before then dropLowLines? c rest else none
    else if before == '_' && !isDigit c then none
    else (dropLowLines? c rest).map (c :: ·)

/-- A number text: trimmed, with digits of any script and single low lines between digits. -/
def readFloat? (s : String) : Option Float := do
  let cs := (Text.trimmed Text.isBlank s.toList).map Text.toLatinDigit
  signedFloat? (← dropLowLines? ' ' cs)

/-- Whether two low lines stand side by side. -/
def hasDoubleLowLine : List Char → Bool
  | '_' :: '_' :: _ => true
  | _ :: rest => hasDoubleLowLine rest
  | [] => false

/-- A number text in a request: trimmed, with basic digits; if it cannot be read as it stands, it
is read once more without its low lines, which must be single and inside the text. -/
def readField? (s : String) : Option Float :=
  let cs := s.toList
  match signedFloat? (Text.trimmed Text.isBlank cs) with
  | some x => some x
  | none =>
    if !cs.contains '_' || cs.head? == some '_' || cs.getLast? == some '_' ||
        hasDoubleLowLine cs then none
    else signedFloat? (cs.filter (· != '_'))

/-- A number text in a table: the bare numeral or word. -/
def readCell? (s : String) : Option Float := signedFloat? s.toList

/-- An integer text: trimmed, signed, with digits of any script and single low lines between
digits, at most 4300 digits in all. -/
def readInt? (s : String) : Option Int := do
  let cs := (Text.trimmed Text.isBlank s.toList).map Text.toLatinDigit
  let (negative, digits) := splitSign (← dropLowLines? ' ' cs)
  if digits.isEmpty || !digits.all isDigit || 4300 < digits.length then none
  else some (if negative then -(ofDigits digits : Int) else ofDigits digits)

end JourneyCost.Decimal
