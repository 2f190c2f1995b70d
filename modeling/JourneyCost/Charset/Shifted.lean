import JourneyCost.Charset.Wide
import JourneyCost.Text.Base64

/-!
# Characters in a basic text

A basic text stands for itself, but for the runs that a plus sign begins.  Such a run holds units
of two bytes, written to base 64, and ends before the first character that is no digit; a hyphen
there belongs to the run.
-/

namespace JourneyCost.Charset

open Text

/-- How far the reading of a run of digits has come. -/
structure Run where
  /-- The bits that no unit has yet. -/
  bits : Nat
  /-- Their number. -/
  count : Nat
  /-- The first half of a pair whose second half is to come. -/
  half : Option Nat

/-- A run at its beginning. -/
def Run.start : Run := ⟨0, 0, none⟩

/-- The characters that a unit gives, and what it leaves of a pair.  A half without the other one is
let through, with a mark in its place. -/
def Run.take (half : Option Nat) (unit : Nat) : List Char × Option Nat :=
  match half with
  | some first =>
    if isSecondHalf unit then ([charOfHalves first unit], none)
    else if isFirstHalf unit then ([replacement], some unit)
    else ([replacement, charOfCode unit], none)
  | none => if isFirstHalf unit then ([], some unit) else ([charOfCode unit], none)

/-- The characters that a digit gives, and the run after it. -/
def Run.push (run : Run) (digit : Nat) : List Char × Run :=
  let bits := run.bits * 64 + digit
  let count := run.count + 6
  if count < 16 then ([], { run with bits := bits, count := count })
  else
    let (chars, half) := Run.take run.half (bits >>> (count - 16))
    (chars, ⟨bits % (1 <<< (count - 16)), count - 16, half⟩)

/-- Whether a run cannot end with the bits that are left. -/
def Run.isOpen (run : Run) : Bool := 6 ≤ run.count || run.bits != 0

/-- What the end of the bytes in a run gives. -/
def Run.close (run : Run) : List (Option Char) :=
  if run.isOpen || run.half.isSome then [none] else []

/-- The state after a byte in a run, with what the end of the bytes gives. -/
def Run.inside (chars : List Char) (run : Run) (rest : Bytes) : Step (Option Run) :=
  let close := if rest.isEmpty then run.close else []
  ⟨chars.map some ++ close, 0, some run⟩

/-- A byte outside a run. -/
def plainStep (b : Nat) (rest : Bytes) : Step (Option Run) :=
  if b == 43 then
    match rest with
    | [] => Run.inside [] .start []
    | c :: _ =>
      if c == 45 then ⟨[some '+'], 1, none⟩
      else if (base64Digit? c).isNone then ⟨[none], 1, none⟩
      else Run.inside [] .start rest
  else if b < 128 then ⟨[some (Char.ofNat b)], 0, none⟩
  else ⟨[none], 0, none⟩

/-- A byte that ends a run. -/
def Run.leave (run : Run) (b : Nat) (rest : Bytes) : Step (Option Run) :=
  if run.isOpen then ⟨[none], 0, none⟩
  else
    let half := if run.half.isSome && b < 128 && b != 43 then [some replacement] else []
    if b == 45 then ⟨half, 0, none⟩
    else
      let step := plainStep b rest
      { step with chars := half ++ step.chars }

/-- A byte in or outside a run. -/
def shiftedStep (run : Option Run) (b : Nat) (rest : Bytes) : Step (Option Run) :=
  match run with
  | none => plainStep b rest
  | some run =>
    match base64Digit? (UInt8.ofNat b) with
    | some digit =>
      let (chars, run) := run.push digit
      Run.inside chars run rest
    | none => run.leave b rest

/-- The characters in a basic text with runs. -/
def readShifted (bytes : Bytes) : List (Option Char) :=
  readFrom shiftedStep 0 none bytes

end JourneyCost.Charset
