import JourneyCost.Charset.Chinese
import JourneyCost.Charset.Japanese
import JourneyCost.Charset.Korean

/-!
# Sets with switches

A sequence after an escape character designates a set to one of three places.  The first place is in
force unless a shift puts the second in force, and the third counts for one character.
-/

namespace JourneyCost.Charset

open Text

/-- A set that can be designated. -/
structure Designated where
  /-- The mark. -/
  mark : Nat
  /-- The characters of two bytes, or of one with zero after it. -/
  chars? : Nat → Nat → Option (List Char)

/-- How a set with switches works. -/
structure Scheme where
  /-- The sets that can be designated, beside the basic one. -/
  sets : List Designated
  /-- Whether there are shifts. -/
  hasShifts : Bool
  /-- Whether there is a third place. -/
  hasThird : Bool
  /-- Whether a sequence may tell a revision before the designation. -/
  hasRevisions : Bool

/-- The state of the switches. -/
structure Switches where
  /-- The mark in the first place. -/
  first : Nat
  /-- The mark in the second place. -/
  second : Nat
  /-- The mark in the third place. -/
  third : Nat
  /-- Whether the second place is in force. -/
  shifted : Bool
  /-- Whether an unknown sequence is passed through. -/
  passing : Bool

/-- The mark of the basic set. -/
def basicMark : Nat := 66

/-- The switches at the beginning. -/
def Switches.start : Switches := ⟨basicMark, basicMark, basicMark, false, false⟩

/-- Whether a byte ends a sequence. -/
def endsSequence (b : Nat) : Bool := 64 ≤ b && b ≤ 90

/-- The length of a sequence. -/
inductive SequenceLength where
  /-- The bytes end before it. -/
  | short
  /-- It is too long. -/
  | endless
  /-- So many bytes. -/
  | bytes (n : Nat)

/-- The length of a sequence of which `n` bytes are known, within so many more steps. -/
def sequenceLength (scheme : Scheme) (n : Nat) : Nat → Bytes → SequenceLength
  | 0, _ => .endless
  | fuel + 1, bytes =>
    if 16 ≤ n then .endless
    else
      match bytes with
      | [] => .short
      | b :: rest =>
        if endsSequence b.toNat then .bytes (n + 1)
        else if scheme.hasRevisions && b == 38 && rest.head? == some 64 then
          sequenceLength scheme (n + 3) fuel (rest.drop 2)
        else sequenceLength scheme (n + 1) fuel rest

/-- The switches with a mark in a place, which a byte of a sequence tells. -/
def Switches.designate? (switches : Switches) (scheme : Scheme) (place mark : Nat) :
    Option Switches :=
  if place == 40 then some { switches with first := mark }
  else if place == 41 then some { switches with second := mark }
  else if place == 46 && scheme.hasThird then some { switches with third := mark }
  else none

/-- The mark and the place that a whole sequence after an escape tells. -/
def designation? (scheme : Scheme) : List Nat → Option (Nat × Nat)
  | [36, b] => some (40, b + 128)
  | [place, b] => some (place, b)
  | [36, place, b] => if place == 46 then none else some (place, b + 128)
  | [_, _, 27, 36, 66] => if scheme.hasRevisions then some (40, 194) else none
  | _ => none

/-- The switches after a sequence, if it designates a set that is known. -/
def Switches.after? (switches : Switches) (scheme : Scheme) (sequence : List Nat) :
    Option Switches := do
  let (place, mark) ← designation? scheme sequence
  if mark == basicMark || scheme.sets.any (·.mark == mark) then
    switches.designate? scheme place mark
  else none

/-- The Greek signs that have their own codes. -/
def greekSigns : List Nat :=
  [0xA0, 0xA3, 0xA6, 0xA7, 0xA8, 0xA9, 0xAB, 0xAC, 0xAD, 0xB0, 0xB1, 0xB2, 0xB3, 0xB7, 0xBB, 0xBD]

/-- The character of a code in the first edition of the Greek set. -/
def greekChar? (code : Nat) : Option Char :=
  if code < 0xA0 || greekSigns.contains code then some (Char.ofNat code)
  else if code == 0xA1 then some '‘'
  else if code == 0xA2 then some '’'
  else if code == 0xAF then some '―'
  else if 0xB4 ≤ code && code ≤ 0xFE && code != 0xD2 then some (Char.ofNat (0x2D0 + code))
  else none

/-- The character of a byte under the mark in the third place. -/
def thirdChar? (mark b : Nat) : Option Char :=
  if mark == 70 then greekChar? ((b + 128) % 256)
  else if 128 ≤ b then none
  else if mark == basicMark then some (Char.ofNat b)
  else if mark == 65 then some (Char.ofNat (b + 128))
  else none

/-- The step that takes a sequence after an escape character. -/
def Switches.take (switches : Switches) (scheme : Scheme) (rest : Bytes) : Step Switches :=
  let wrong (more : Nat) : Step Switches := ⟨[none], more, switches⟩
  match sequenceLength scheme 1 16 rest with
  | .short => wrong rest.length
  | .endless => wrong 0
  | .bytes n =>
    match switches.after? scheme ((rest.take (n - 1)).map (·.toNat)) with
    | some after => ⟨[], n - 1, after⟩
    | none => wrong (n - 1)

/-- The step that reads a character under the mark that is in force. -/
def Switches.read (switches : Switches) (scheme : Scheme) (b : Nat) (rest : Bytes) :
    Step Switches :=
  let mark := if switches.shifted then switches.second else switches.first
  match scheme.sets.find? (·.mark == mark) with
  | none => ⟨[some (Char.ofNat b)], 0, switches⟩
  | some set =>
    let width := if mark < 128 then 1 else 2
    match width, rest with
    | 2, [] => ⟨[none], 0, switches⟩
    | _, _ =>
      let second := if width == 1 then 0 else (rest.head?.map (·.toNat)).getD 0
      let cell := (set.chars? b second).getD [replacement]
      ⟨cell.map fun c => (some c).filter (· != replacement), width - 1, switches⟩

/-- A step at an escape character. -/
def Switches.escape (switches : Switches) (scheme : Scheme) (rest : Bytes) : Step Switches :=
  match rest with
  | [] => ⟨[none], 0, switches⟩
  | c :: more =>
    if [36, 38, 40, 41, 46].contains c.toNat then switches.take scheme rest
    else if c == 78 && scheme.hasThird then
      match more with
      | [] => ⟨[none], 1, switches⟩
      | d :: _ => ⟨[thirdChar? switches.third d.toNat], 2, switches⟩
    else ⟨[some '\x1b'], 0, { switches with passing := true }⟩

/-- A step in a set with switches. -/
def switchedStep (scheme : Scheme) (switches : Switches) (b : Nat) (rest : Bytes) :
    Step Switches :=
  if switches.passing then
    ⟨[some (Char.ofNat b)], 0, { switches with passing := !endsSequence b }⟩
  else if b == 27 then switches.escape scheme rest
  else if b == 15 && scheme.hasShifts then ⟨[], 0, { switches with shifted := false }⟩
  else if b == 14 && scheme.hasShifts then ⟨[], 0, { switches with shifted := true }⟩
  else if b == 10 then ⟨[some '\n'], 0, { switches with shifted := false }⟩
  else if b < 32 then ⟨[some (Char.ofNat b)], 0, switches⟩
  else if 128 ≤ b then ⟨[none], 0, switches⟩
  else switches.read scheme b rest

/-- The characters in a set with switches. -/
def readSwitched (scheme : Scheme) (bytes : Bytes) : List (Option Char) :=
  readFrom (switchedStep scheme) 0 .start bytes

/-- A set of two bytes with one character in each cell. -/
def Designated.ofGrid (letter : Char) (char? : Nat → Nat → Option Char) : Designated :=
  ⟨letter.toNat + 128, fun b c =>
    if 32 ≤ b && 32 ≤ c then (char? (b - 32) (c - 32)).map ([·]) else none⟩

/-- A plane of JIS X 0213. -/
def Designated.ofPlane (letter : Char) (chars? : Nat → Nat → Option (List Char)) : Designated :=
  ⟨letter.toNat + 128, fun b c => if 32 ≤ b && 32 ≤ c then chars? (b - 32) (c - 32) else none⟩

/-- The sets that Japanese schemes have in common. -/
def japaneseDesignated : List Designated :=
  [.ofGrid '@' jisChar?, .ofGrid 'B' jisChar?,
   ⟨74, fun b _ => if b < 128 then (nationalSingle? b).map ([·]) else none⟩]

/-- A Japanese scheme with further sets. -/
def japaneseScheme (sets : List Designated) : Scheme := ⟨sets, false, false, true⟩

/-- The supplement of JIS X 0208. -/
def supplementDesignated : Designated := .ofGrid 'D' jisSupplementChar?

/-- Half-wide letters. -/
def halfWideDesignated : Designated := ⟨73, fun b _ => (halfWide? (b + 128)).map ([·])⟩

/-- The scheme of several countries. -/
def jointScheme : Scheme :=
  { japaneseScheme (japaneseDesignated ++
      [supplementDesignated, .ofGrid 'C' (gridCell? ksGrid), .ofGrid 'A' (gridCell? gbGrid),
       ⟨65, fun _ _ => none⟩, ⟨70, fun _ _ => none⟩]) with hasThird := true }

/-- Sets with switches. -/
def switchedSets : List Charset :=
  [lossy "iso2022_jp" ["csiso2022jp", "iso2022jp", "iso_2022_jp"]
     (readSwitched (japaneseScheme japaneseDesignated)),
   lossy "iso2022_jp_1" ["iso2022jp_1", "iso_2022_jp_1"]
     (readSwitched (japaneseScheme (supplementDesignated :: japaneseDesignated))),
   lossy "iso2022_jp_2" ["iso2022jp_2", "iso_2022_jp_2"] (readSwitched jointScheme),
   lossy "iso2022_jp_2004" ["iso2022jp_2004", "iso_2022_jp_2004"]
     (readSwitched (japaneseScheme
       [.ofGrid 'B' jisChar?, .ofPlane 'Q' JisEdition.second.chars?,
        .ofGrid 'P' JisEdition.second.secondChar?])),
   lossy "iso2022_jp_3" ["iso2022jp_3", "iso_2022_jp_3"]
     (readSwitched (japaneseScheme
       [.ofGrid 'B' jisChar?, .ofPlane 'O' JisEdition.first.chars?,
        .ofGrid 'P' jisSecondChar?])),
   lossy "iso2022_jp_ext" ["iso2022jp_ext", "iso_2022_jp_ext"]
     (readSwitched (japaneseScheme
       (supplementDesignated :: halfWideDesignated :: japaneseDesignated))),
   lossy "iso2022_kr" ["csiso2022kr", "iso2022kr", "iso_2022_kr"]
     (readSwitched ⟨[.ofGrid 'C' (gridCell? ksGrid)], true, false, false⟩)]

end JourneyCost.Charset
