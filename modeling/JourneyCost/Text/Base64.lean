import JourneyCost.Text.Encoding

/-!
# Bytes written to base 64

Three bytes are four digits to base 64, and padding marks fill up the last four.  Characters that
are neither are passed over.  What has the wrong padding is taken as it stands.
-/

namespace JourneyCost.Text

/-- The value of a digit to base 64. -/
def base64Digit? (b : UInt8) : Option Nat :=
  let code := b.toNat
  if 65 ≤ code && code ≤ 90 then some (code - 65)
  else if 97 ≤ code && code ≤ 122 then some (code - 71)
  else if 48 ≤ code && code ≤ 57 then some (code + 4)
  else if code == 43 then some 62
  else if code == 47 then some 63
  else none

/-- The bytes of a sequence of digits to base 64. -/
def bytesOfDigits : List Nat → Bytes
  | a :: b :: c :: d :: rest =>
    let n := ((a * 64 + b) * 64 + c) * 64 + d
    UInt8.ofNat (n / 65536) :: UInt8.ofNat (n / 256) :: UInt8.ofNat n :: bytesOfDigits rest
  | [a, b, c] =>
    let n := (a * 64 + b) * 64 + c
    [UInt8.ofNat (n / 1024), UInt8.ofNat (n / 4)]
  | [a, b] => [UInt8.ofNat ((a * 64 + b) / 16)]
  | _ => []

/-- The digits up to the padding that ends them, with how many digits and padding marks came. -/
def base64Digits (digits : List Nat) (padding : Nat) : Bytes → List Nat × Nat
  | [] => (digits.reverse, padding)
  | b :: rest =>
    if b == 61 then
      if 2 ≤ digits.length % 4 && 4 ≤ digits.length % 4 + padding + 1 then
        (digits.reverse, padding + 1)
      else base64Digits digits (padding + 1) rest
    else
      match base64Digit? b with
      | some digit => base64Digits (digit :: digits) 0 rest
      | none => base64Digits digits padding rest

/-- The bytes that a text to base 64 stands for, if its padding is right. -/
def decodeBase64? (bytes : Bytes) : Option Bytes :=
  let (digits, padding) := base64Digits [] 0 bytes
  let left := digits.length % 4
  if left == 0 || (2 ≤ left && 4 ≤ left + padding) then some (bytesOfDigits digits) else none

/-- The bytes that a text to base 64 stands for; a text with wrong padding stands for itself. -/
def decodeBase64 (bytes : Bytes) : Bytes := (decodeBase64? bytes).getD bytes

end JourneyCost.Text
