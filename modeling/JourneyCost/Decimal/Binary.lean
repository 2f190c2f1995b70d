/-!
# Floats as exact binary fractions

A finite float is a sign and a fraction `mantissa * 2 ^ exponent`.  This module takes floats
apart, and rounds an exact quotient to the nearest float, ties going to the even mantissa.  All
reading and writing of numbers goes through these two directions.
-/

namespace JourneyCost.Decimal

/-- A power of two. -/
def twoTo (exponent : Nat) : Nat := Nat.pow 2 exponent

/-- A power of ten. -/
def tenTo (exponent : Nat) : Nat := Nat.pow 10 exponent

/-- What the bits of a float stand for. -/
inductive Binary where
  /-- The number `mantissa * 2 ^ exponent`, negated or not. -/
  | finite (negative : Bool) (mantissa : Nat) (exponent : Int)
  /-- An infinity. -/
  | infinite (negative : Bool)
  /-- Not a number. -/
  | undefined
deriving DecidableEq, Repr

/-- The parts of a 64-bit pattern. -/
def Binary.ofBits (bits : Nat) : Binary :=
  let negative := bits / twoTo 63 % 2 == 1
  let scale : Nat := bits / twoTo 52 % 2048
  let fraction : Nat := bits % twoTo 52
  if scale == 2047 then
    if fraction == 0 then .infinite negative else .undefined
  else if scale == 0 then .finite negative fraction (-1074)
  else .finite negative (twoTo 52 + fraction) ((scale : Int) - 1075)

/-- The parts of a float. -/
def Binary.ofFloat (x : Float) : Binary := .ofBits x.toBits.toNat

/-- The quotient rounded to the nearest natural number, a half going to the even one. -/
def roundDiv (num den : Nat) : Nat :=
  let quotient := num / den
  let double := 2 * (num % den)
  if double < den then quotient
  else if den < double then quotient + 1
  else if quotient % 2 == 0 then quotient else quotient + 1

/-- The power of two in which a positive quotient is counted when it is rounded to a float:
53 digits are kept, fewer near zero. -/
def unitExponent (num den : Nat) : Int :=
  let estimate : Int := (num.log2 : Int) - den.log2
  let reached :=
    if 0 ≤ estimate then decide (den * twoTo estimate.toNat ≤ num)
    else decide (den ≤ num * twoTo (-estimate).toNat)
  let leading := if reached then estimate else estimate - 1
  max (leading - 52) (-1074)

/-- Bits of the float nearest to a positive quotient, without the sign. -/
def nearestBits (num den : Nat) : Nat :=
  if num == 0 then 0
  else
    let unit := unitExponent num den
    let count :=
      if 0 ≤ unit then roundDiv num (den * twoTo unit.toNat)
      else roundDiv (num * twoTo (-unit).toNat) den
    min ((unit + 1074).toNat * twoTo 52 + count) (2047 * twoTo 52)

/-- The float nearest to a quotient, with a sign; infinite past the range of floats. -/
def nearest (negative : Bool) (num den : Nat) : Float :=
  Float.ofBits (UInt64.ofNat ((if negative then twoTo 63 else 0) + nearestBits num den))

/-- Integers of this magnitude round past the largest float. -/
def overflowLimit : Nat := twoTo 1024 - twoTo 970

/-- The float nearest to an integer, if there is a finite one. -/
def floatOfInt? (n : Int) : Option Float :=
  if overflowLimit ≤ n.natAbs then none else some (nearest (n < 0) n.natAbs 1)

/-- The least integer that is not below a finite float. -/
def ceiling? (x : Float) : Option Int :=
  match Binary.ofFloat x with
  | .finite negative mantissa exponent =>
    let scale := twoTo (-exponent).toNat
    let whole := mantissa * twoTo exponent.toNat
    if negative then some (-(whole / scale : Nat)) else some ((whole + (scale - 1)) / scale : Nat)
  | _ => none

/-- A finite float as an integer, if it is one. -/
def wholeValue? (x : Float) : Option Int :=
  match Binary.ofFloat x with
  | .finite negative mantissa exponent =>
    let scale := twoTo (-exponent).toNat
    let whole := mantissa * twoTo exponent.toNat
    if whole % scale == 0 then
      some (if negative then -(whole / scale : Nat) else (whole / scale : Nat))
    else none
  | _ => none

end JourneyCost.Decimal
