import JourneyCost.Decimal.Binary
import JourneyCost.Fault
import JourneyCost.Geo.Point

/-!
# Encoded polylines

A number is cut into groups of five bits, the lowest first, and each group is one character from
code 63 on, with 32 added to all groups but the last.  Each pair of numbers is the step from one
point to the next, latitude first, in units of a power of ten.
-/

namespace JourneyCost.Polyline

/-- The code of the character for an empty group. -/
def offset : Nat := 63

/-- A signed number folded into a natural one: the sign becomes the lowest bit. -/
def fold (d : Int) : Nat := if 0 ≤ d then 2 * d.toNat else 2 * (-d).toNat - 1

/-- The signed number that was folded. -/
def unfold (n : Nat) : Int := if n % 2 == 1 then -(n / 2 : Nat) - 1 else (n / 2 : Nat)

/-- The characters of a natural number. -/
def encodeNat (n : Nat) : List Char :=
  if n < 32 then [Char.ofNat (n + offset)]
  else Char.ofNat (n % 32 + 32 + offset) :: encodeNat (n / 32)
termination_by n
decreasing_by omega

/-- The characters of the steps from one pair of numbers to the next. -/
def encodeFrom (lat lon : Int) : List (Int × Int) → List Char
  | [] => []
  | (y, x) :: rest =>
    encodeNat (fold (y - lat)) ++ encodeNat (fold (x - lon)) ++ encodeFrom y x rest

/-- The polyline of a list of latitudes and longitudes, in units of the last place. -/
def encode (pairs : List (Int × Int)) : String := String.ofList (encodeFrom 0 0 pairs)

/-- A number in progress: what its groups so far add up to, and the weight of the next group. -/
structure Progress where
  /-- The sum of the groups read. -/
  sum : Nat
  /-- The weight of the next group. -/
  weight : Nat

/-- Before the first group. -/
def Progress.start : Progress := ⟨0, 1⟩

/-- The complete numbers of a text, and whether it ends where a number ends. -/
def readNumbers (read : Progress) : List Char → List Nat × Bool
  | [] => ([], read.weight == 1)
  | c :: rest =>
    let group := c.toNat - offset
    let sum := read.sum + group % 32 * read.weight
    if group < 32 then
      let (numbers, whole) := readNumbers .start rest
      (sum :: numbers, whole)
    else readNumbers ⟨sum, read.weight * 32⟩ rest

/-- Neighbouring numbers as pairs, and whether none is left over. -/
def pairUp : List Nat → List (Int × Int) × Bool
  | lat :: lon :: rest =>
    let (pairs, whole) := pairUp rest
    ((unfold lat, unfold lon) :: pairs, whole)
  | rest => ([], rest.isEmpty)

/-- The positions that a list of steps leads to. -/
def accumulate (lat lon : Int) : List (Int × Int) → List (Int × Int)
  | [] => []
  | (dy, dx) :: rest => (lat + dy, lon + dx) :: accumulate (lat + dy) (lon + dx) rest

/-- Units to a degree. -/
def unitsPerDegree (precision : Int) : Except Fault Float :=
  if precision < 0 then
    .ok (Float.pow 10 (-(Decimal.nearest false precision.natAbs 1)))
  else (Decimal.floatOfInt? (Decimal.tenTo precision.toNat)).elim (.error .overflow) .ok

/-- A number of units in degrees. -/
def degrees (units : Float) (n : Int) : Except Fault Float := do
  let x ← (Decimal.floatOfInt? n).elim (.error .overflow) .ok
  if units == 0 then throw .divisionByZero
  return x / units

/-- The points at the given positions. -/
def toPoints (units : Float) (pairs : List (Int × Int)) : Except Fault (List Point) :=
  pairs.mapM fun (lat, lon) => do
    let y ← degrees units lat
    let x ← degrees units lon
    return ⟨x, y⟩

/-- The points of a polyline.  A text that is empty, has a character below the first code, or
ends inside a number or a pair has none. -/
def decode (precision : Int) (encoded : String) : Except Fault (List Point) := do
  let cs := encoded.toList
  if cs.isEmpty || cs.any (·.toNat < offset) then return []
  let units ← unitsPerDegree precision
  let (numbers, wholeNumbers) := readNumbers .start cs
  let (steps, wholePairs) := pairUp numbers
  let points ← toPoints units (accumulate 0 0 steps)
  return if wholeNumbers && wholePairs then points else []

/-- The points under the first precision that gives any. -/
def decodeFirst (encoded : String) : List Int → Except Fault (List Point)
  | [] => .ok []
  | precision :: more => do
    let points ← decode precision encoded
    if points.isEmpty then decodeFirst encoded more else return points

end JourneyCost.Polyline
