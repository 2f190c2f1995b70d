import JourneyCost.Decimal.Binary

/-!
# The shortest decimal of a float

Of all decimals that read back as a given float, the text uses one with the fewest digits, and of
these the nearest.  For each number of digits only the two neighbours of the float are tried.
-/

namespace JourneyCost.Decimal

/-- Number of decimal digits of a natural number. -/
def digitCount (n : Nat) : Nat := (Nat.toDigits 10 n).length

/-- The place of the decimal point of a positive quotient: the quotient lies in
`[10 ^ (place - 1), 10 ^ place)`. -/
def pointPlace (num den : Nat) : Int :=
  if den ≤ num then digitCount (num / den)
  else
    let digits := digitCount (den / num)
    if den ≤ num * tenTo (digits - 1) then 1 - ((digits - 1 : Nat) : Int) else 1 - (digits : Int)

/-- A positive number `digits * 10 ^ scale`. -/
structure Scaled where
  /-- The digits, read as a natural number. -/
  digits : Nat
  /-- The power of ten that they count. -/
  scale : Int
deriving DecidableEq, Repr

/-- A positive number between two bounds, all over one denominator. -/
structure Interval where
  /-- Least numerator that rounds to the number. -/
  low : Nat
  /-- Numerator of the number itself. -/
  value : Nat
  /-- Greatest numerator that rounds to the number. -/
  high : Nat
  /-- The common denominator. -/
  den : Nat
  /-- Whether the bounds themselves round to the number. -/
  closed : Bool

/-- The numbers that round to the float `mantissa * 2 ^ exponent`. -/
def Interval.ofBinary (mantissa : Nat) (exponent : Int) : Interval :=
  let factor := twoTo (exponent - 2).toNat
  let below := if mantissa == twoTo 52 && decide (-1074 < exponent) then 1 else 2
  { low := (4 * mantissa - below) * factor
    value := 4 * mantissa * factor
    high := (4 * mantissa + 2) * factor
    den := twoTo (2 - exponent).toNat
    closed := mantissa % 2 == 0 }

/-- Whether `digits * 10 ^ scale` lies in the interval. -/
def Interval.holds (range : Interval) (decimal : Scaled) : Bool :=
  let point := decimal.digits * tenTo decimal.scale.toNat * range.den
  let grid := tenTo (-decimal.scale).toNat
  if range.closed then range.low * grid ≤ point && point ≤ range.high * grid
  else range.low * grid < point && point < range.high * grid

/-- The neighbour of the interval's number on a decimal grid that lies in the interval, the
nearer one if both do, the even one if they are equally near. -/
def Interval.onGrid? (range : Interval) (scale : Int) : Option Scaled :=
  let num := range.value * tenTo (-scale).toNat
  let den := range.den * tenTo scale.toNat
  let below : Scaled := ⟨num / den, scale⟩
  let above : Scaled := ⟨num / den + 1, scale⟩
  match range.holds below, range.holds above with
  | true, true => some ⟨roundDiv num den, scale⟩
  | true, false => some below
  | false, true => some above
  | false, false => none

/-- The first hit on the grids of the given digit counts. -/
def Interval.search (range : Interval) (place : Int) : List Nat → Option Scaled
  | [] => none
  | count :: more =>
    match range.onGrid? (place - count) with
    | some decimal => some decimal
    | none => range.search place more

/-- The shortest decimal that reads back as `mantissa * 2 ^ exponent`. -/
def shortest (mantissa : Nat) (exponent : Int) : Scaled :=
  let range := Interval.ofBinary mantissa exponent
  let place := pointPlace range.value range.den
  (range.search place (List.range' 1 17)).getD ⟨range.value / range.den, 0⟩

end JourneyCost.Decimal
