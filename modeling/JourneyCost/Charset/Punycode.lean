import JourneyCost.Charset.Reader
import JourneyCost.Fault
import JourneyCost.Text.Split

/-!
# Basic characters with instructions

A text is written as its basic characters, a hyphen, and instructions in letters and digits that
insert all other characters in order of their codes.  The reading stops at an instruction that
makes no sense, or refuses it if it is exact.  The labels of a host name may be written so too.
-/

namespace JourneyCost.Charset

open Text

/-- The value of a letter or digit of an instruction. -/
def insertionDigit? (c : Char) : Option Nat :=
  if 'A' ≤ c && c ≤ 'Z' then some (c.toNat - 65)
  else if '0' ≤ c && c ≤ '9' then some (c.toNat - 22)
  else none

/-- The least digit that goes on at a place. -/
def insertionLimit (place bias : Nat) : Nat := min 26 (max 1 (36 * (place + 1) - bias))

/-- The number at the front of the instructions, and the instructions after it. -/
def insertionNumber? (bias : Nat) (place value weight : Nat) :
    List Char → Option (Nat × List Char)
  | [] => none
  | c :: rest => do
    let digit ← insertionDigit? c
    let value := value + digit * weight
    let limit := insertionLimit place bias
    if digit < limit then some (value, rest)
    else insertionNumber? bias (place + 1) value (weight * (36 - limit)) rest

/-- A distance in steps of thirty-five, with at most so many divisions. -/
def insertionSteps (divisions : Nat) : Nat → Nat → Nat
  | 0, delta => divisions + 36 * delta / (delta + 38)
  | fuel + 1, delta =>
    if delta ≤ 455 then divisions + 36 * delta / (delta + 38)
    else insertionSteps (divisions + 36) fuel (delta / 35)

/-- The bias after an insertion. -/
def insertionBias (delta : Nat) (first : Bool) (length : Nat) : Nat :=
  let delta := if first then delta / 700 else delta / 2
  insertionSteps 0 delta (delta + delta / length)

/-- The text with all insertions done, at most as many as the fuel allows. -/
def insertAll (exact : Bool) (code position bias : Nat) (first : Bool) (text : List Char) :
    Nat → List Char → Except Fault (List Char)
  | fuel + 1, c :: rest =>
    match insertionNumber? bias 0 0 1 (c :: rest) with
    | none => if exact then .error .strictEncoding else .ok text
    | some (delta, rest) =>
      let place := position + delta
      let code := code + place / (text.length + 1)
      if exact && 0x10FFFF < code then .error .strictEncoding
      else
        let code := if 0x10FFFF < code then 63 else code
        let place := place % (text.length + 1)
        let text := text.take place ++ charOfCode code :: text.drop place
        insertAll exact code (place + 1) (insertionBias delta first text.length) false text fuel
          rest
  | _, _ => .ok text

/-- The bytes before and after the last hyphen; without one all bytes are after it. -/
def cutLastHyphen (bytes : Bytes) : Bytes × Bytes :=
  let after := (bytes.reverse.takeWhile (· != 45)).reverse
  (bytes.take (bytes.length - after.length - 1), after)

/-- The text that basic characters and instructions make; the instructions must be basic. -/
def readInserted (exact : Bool) (bytes : Bytes) : Except Fault String :=
  let (base, instructions) := cutLastHyphen bytes
  if (if exact then bytes else instructions).any (128 ≤ ·.toNat) then .error .malformedText
  else
    let base := base.map fun b => if b < 128 then Char.ofNat b.toNat else replacement
    let instructions := instructions.map fun b => (Char.ofNat b.toNat).toUpper
    (insertAll exact 128 0 72 true base instructions.length instructions).map String.ofList

/-- The text of a label of a host name, whose characters are all basic.  Labels that are written
with instructions, which the mark `xn--` tells, are not read here. -/
def readLabel (label : List Char) : Except Fault (List Char) :=
  if label.any (128 ≤ ·.toNat) then .error .malformedText
  else if "xn--".toList.isPrefixOf label then .error .strictEncoding
  else .ok label

/-- The text of a host name. -/
def readLabels (bytes : Bytes) : Except Fault String := do
  let labels ← (splitChars '.' (bytes.map fun b => Char.ofNat b.toNat)).mapM readLabel
  return String.ofList (['.'].intercalate labels)

end JourneyCost.Charset
