import JourneyCost.Decimal.Shortest

/-!
# Number texts

A float is written with its shortest digits, in positional notation for middling magnitudes and
with an exponent otherwise.  A style fixes where positional notation ends, the shape of the
exponent and the words for the values that are not finite.
-/

namespace JourneyCost.Decimal

/-- The free choices of a number text. -/
structure Style where
  /-- Positional notation begins above this place of the decimal point. -/
  placeAbove : Int
  /-- Positional notation ends at this place of the decimal point. -/
  placeUpTo : Int
  /-- Least number of digits of an exponent. -/
  exponentDigits : Nat
  /-- What stands before a non-negative exponent. -/
  plus : String
  /-- The word for a value that is not a number. -/
  nan : String
  /-- The word for positive infinity. -/
  infinity : String

/-- Numbers in reports and names: positional from 0.0001 up to 16 whole digits. -/
def Style.plain : Style := ⟨-4, 16, 2, "+", "nan", "inf"⟩

/-- Numbers in documents: as in reports, with the document words for what is not finite. -/
def Style.document : Style := { Style.plain with nan := "NaN", infinity := "Infinity" }

/-- Numbers that a table column holds when it is read as text. -/
def Style.cell : Style := ⟨-5, 16, 1, "+", "NaN", "inf"⟩

/-- A row of zeros. -/
def zeros (count : Nat) : List Char := List.replicate count '0'

/-- Digits padded on the left to a least width. -/
def padLeft (width : Nat) (digits : List Char) : List Char :=
  zeros (width - digits.length) ++ digits

/-- The digits of a decimal without trailing zeros, and the place of its point. -/
def significant (decimal : Scaled) : List Char × Int :=
  let digits := Nat.toDigits 10 decimal.digits
  ((digits.reverse.dropWhile (· == '0')).reverse, decimal.scale + digits.length)

/-- Positional notation of `0.digits * 10 ^ place`. -/
def positional (digits : List Char) (place : Int) : List Char :=
  if place ≤ 0 then '0' :: '.' :: zeros (-place).toNat ++ digits
  else
    let whole := place.toNat
    if digits.length ≤ whole then digits ++ zeros (whole - digits.length) ++ ['.', '0']
    else digits.take whole ++ '.' :: digits.drop whole

/-- Notation of `0.digits * 10 ^ place` with one digit before the point and an exponent. -/
def Style.scientific (style : Style) (digits : List Char) (place : Int) : List Char :=
  let exponent := place - 1
  let mantissa :=
    match digits with
    | first :: second :: more => first :: '.' :: second :: more
    | short => short
  let sign := if exponent < 0 then ['-'] else style.plus.toList
  mantissa ++ 'e' :: sign ++ padLeft style.exponentDigits (Nat.toDigits 10 exponent.natAbs)

/-- The text of a float without its sign. -/
def Style.magnitude (style : Style) (mantissa : Nat) (exponent : Int) : List Char :=
  if mantissa == 0 then ['0', '.', '0']
  else
    let (digits, place) := significant (shortest mantissa exponent)
    if style.placeAbove < place && place ≤ style.placeUpTo then positional digits place
    else style.scientific digits place

/-- The text of a float. -/
def Style.write (style : Style) (x : Float) : String :=
  match Binary.ofFloat x with
  | .undefined => style.nan
  | .infinite negative => if negative then "-" ++ style.infinity else style.infinity
  | .finite negative mantissa exponent =>
    let text := style.magnitude mantissa exponent
    String.ofList (if negative then '-' :: text else text)

/-- A float rounded to a number of decimal places: the exact binary value is rounded, a half
going to the even last digit. -/
def roundTo (places : Nat) (x : Float) : Float :=
  match Binary.ofFloat x with
  | .finite negative mantissa exponent =>
    let scale := tenTo places
    nearest negative
      (roundDiv (mantissa * twoTo exponent.toNat * scale) (twoTo (-exponent).toNat)) scale
  | _ => x

/-- A float written with a fixed number of decimal places. -/
def fixedText (places : Nat) (x : Float) : String :=
  match Binary.ofFloat x with
  | .undefined => Style.plain.nan
  | .infinite negative => if negative then "-" ++ Style.plain.infinity else Style.plain.infinity
  | .finite negative mantissa exponent =>
    let count :=
      roundDiv (mantissa * twoTo exponent.toNat * tenTo places) (twoTo (-exponent).toNat)
    let digits := padLeft (places + 1) (Nat.toDigits 10 count)
    let whole := digits.length - places
    let text := digits.take whole ++ '.' :: digits.drop whole
    String.ofList (if negative then '-' :: text else text)

end JourneyCost.Decimal
