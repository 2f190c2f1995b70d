import JourneyCost.Text.Encoding

/-!
# Reading bytes in steps

Bytes are read from the front.  A step gives some characters for the first byte and perhaps some
bytes after it, and leaves a state.  Bytes that make no sense give nothing in place of a character.
-/

namespace JourneyCost.Charset

open Text

/-- What a step of a reading comes to. -/
structure Step (σ : Type) where
  /-- The characters, with nothing in place of one that makes no sense. -/
  chars : List (Option Char)
  /-- How many bytes after the first one were taken. -/
  more : Nat
  /-- The state that is left. -/
  state : σ

/-- The characters of a sequence of bytes; `skip` bytes were taken before. -/
def readFrom {σ : Type} (step : σ → Nat → Bytes → Step σ) :
    Nat → σ → Bytes → List (Option Char)
  | _, _, [] => []
  | skip + 1, state, _ :: rest => readFrom step skip state rest
  | 0, state, b :: rest =>
    let taken := step state b.toNat rest
    taken.chars ++ readFrom step taken.more taken.state rest

/-- Characters, or nothing in place of the first byte, or of all bytes if they end too soon. -/
inductive Reading where
  /-- Characters for the first byte and some bytes after it. -/
  | chars (cs : List Char) (more : Nat)
  /-- Bytes that mean nothing, the first one and some after it. -/
  | wrong (more : Nat)
  /-- Bytes that end too soon. -/
  | short

/-- Characters that a chart has, unless it has a replacement mark among them. -/
def Reading.ofCell (cs : List Char) (more : Nat) : Reading :=
  if cs.contains replacement then .wrong more else .chars cs more

/-- A step that keeps no state. -/
def Reading.step (reading : Reading) (rest : Bytes) : Step Unit :=
  match reading with
  | .chars cs more => ⟨cs.map some, more, ()⟩
  | .wrong more => ⟨[none], more, ()⟩
  | .short => ⟨[none], rest.length, ()⟩

/-- The characters that a reading without a state makes of a sequence of bytes. -/
def readEach (read : Nat → Bytes → Reading) (bytes : Bytes) : List (Option Char) :=
  readFrom (fun _ b rest => (read b rest).step rest) 0 () bytes

end JourneyCost.Charset
