import JourneyCost.Charset.Reader
import JourneyCost.Json.Token

/-!
# Characters after backslashes

Each byte is the code of a character, but a backslash begins an escape.  There are two dialects:
one in which the usual one-letter escapes count, and one in which only long codes do.  Names of
characters are not known here, so an escape with a name means nothing.
-/

namespace JourneyCost.Charset

open Text

/-- The number in hexadecimal digits, at most `places`, with how many digits were there. -/
def hexValue (value : Nat) : Nat → Bytes → Nat × Nat
  | 0, _ => (value, 0)
  | _, [] => (value, 0)
  | places + 1, b :: rest =>
    match Json.hexDigit? (Char.ofNat b.toNat) with
    | some digit =>
      let (value, count) := hexValue (value * 16 + digit) places rest
      (value, count + 1)
    | none => (value, 0)

/-- The character with a code of so many digits after a backslash and a letter. -/
def readCode (places : Nat) (digits : Bytes) : Reading :=
  let (value, count) := hexValue 0 places digits
  if count < places || 0x110000 ≤ value then .wrong (count + 1)
  else .chars [charOfCode value] (places + 1)

/-- The number in octal digits, at most `places`, with how many digits were there. -/
def octalValue (value : Nat) : Nat → Bytes → Nat × Nat
  | 0, _ => (value, 0)
  | _, [] => (value, 0)
  | places + 1, b :: rest =>
    if 48 ≤ b.toNat && b.toNat ≤ 55 then
      let (value, count) := octalValue (value * 8 + (b.toNat - 48)) places rest
      (value, count + 1)
    else (value, 0)

/-- The one-letter escapes. -/
def letterEscapes : List (Char × List Char) :=
  [('\n', []), ('\\', ['\\']), ('\'', ['\'']), ('"', ['"']), ('b', ['\x08']), ('f', ['\x0c']),
   ('t', ['\t']), ('n', ['\n']), ('r', ['\r']), ('v', ['\x0b']), ('a', ['\x07'])]

/-- The bytes of a name in braces that a backslash and a letter come before. -/
def readName (rest : Bytes) : Reading :=
  match rest with
  | 0x7B :: 0x7D :: _ => .wrong 2
  | 0x7B :: name =>
    if name.contains 0x7D then .wrong ((name.takeWhile (· != 0x7D)).length + 3) else .short
  | _ => .wrong 1

/-- The character at the front, with all escapes. -/
def readEscape (b : Nat) (rest : Bytes) : Reading :=
  if b != 92 then .chars [Char.ofNat b] 0
  else
    match rest with
    | [] => .short
    | c :: digits =>
      let letter := Char.ofNat c.toNat
      if '0' ≤ letter && letter ≤ '7' then
        let (value, count) := octalValue 0 3 rest
        .chars [charOfCode value] count
      else if letter == 'x' then readCode 2 digits
      else if letter == 'u' then readCode 4 digits
      else if letter == 'U' then readCode 8 digits
      else if letter == 'N' then readName digits
      else
        match letterEscapes.lookup letter with
        | some chars => .chars chars 1
        | none => .chars ['\\', letter] 1

/-- The character at the front, with no escapes but long codes. -/
def readLongEscape (b : Nat) (rest : Bytes) : Reading :=
  if b != 92 then .chars [Char.ofNat b] 0
  else
    match rest with
    | [] => .chars ['\\'] 0
    | c :: digits =>
      if c == 117 then readCode 4 digits
      else if c == 85 then readCode 8 digits
      else .chars ['\\', Char.ofNat c.toNat] 1

end JourneyCost.Charset
