/-!
# Decimal digits of all scripts

Every script with decimal digits has them as ten consecutive characters, from zero to nine.
-/

namespace JourneyCost.Text

/-- Codes of the zeros of all scripts, by the Unicode character database, version 14. -/
def zeroCodes : List Nat :=
  [48, 1632, 1776, 1984, 2406, 2534, 2662, 2790, 2918, 3046, 3174, 3302, 3430, 3558, 3664,
   3792, 3872, 4160, 4240, 6112, 6160, 6470, 6608, 6784, 6800, 6992, 7088, 7232, 7248, 42528,
   43216, 43264, 43472, 43504, 43600, 44016, 65296, 66720, 68912, 69734, 69872, 69942, 70096,
   70384, 70736, 70864, 71248, 71360, 71472, 71904, 72016, 72784, 73040, 73120, 92768, 92864,
   93008, 120782, 120792, 120802, 120812, 120822, 123200, 123632, 125264, 130032]

/-- Codes of the zeros that versions 15 and 16 added. -/
def newerZeroCodes : List Nat :=
  [68928, 71376, 71386, 72688, 73552, 118000, 124144, 124401]

/-- Whether a character is a decimal digit of any script. -/
def isDecimalDigit (c : Char) : Bool :=
  (zeroCodes ++ newerZeroCodes).any fun first => first ≤ c.toNat && c.toNat < first + 10

/-- The value of a decimal digit of any script. -/
def digitValue? (c : Char) : Option Nat :=
  (zeroCodes.find? fun first => first ≤ c.toNat && c.toNat < first + 10).map (c.toNat - ·)

/-- A decimal digit of any script as the same digit of the basic Latin block. -/
def toLatinDigit (c : Char) : Char :=
  match digitValue? c with
  | some value => Char.ofNat (48 + value)
  | none => c

end JourneyCost.Text
