import JourneyCost.Charset.KsRows

/-!
# Korean sets

The grid of KS X 1001 holds the common syllables.  Where it is in use with the high bit, other
syllables are spelled out with eight bytes, or fill the pairs of bytes around the grid in their
order.  In a third set the bits of a pair tell the three parts of a syllable.
-/

namespace JourneyCost.Charset

open Text

/-- The grid of KS X 1001. -/
def ksGrid : Array Char := gridCells ksRows

/-- The syllable with the given first, middle and last part. -/
def syllable (first middle last : Nat) : Char :=
  Char.ofNat (0xAC00 + (first * 21 + middle) * 28 + last)

/-- The letters that a syllable can begin with, as distances in the block of letters. -/
def firstLetters : List Nat :=
  [0, 1, 3, 6, 7, 8, 16, 17, 18, 20, 21, 22, 23, 24, 25, 26, 27, 28, 29]

/-- The letters that a syllable can end with, as distances in the block of letters. -/
def lastLetters : List Nat :=
  [0, 1, 2, 3, 4, 5, 6, 8, 9, 10, 11, 12, 13, 14, 15, 16, 17, 19, 20, 21, 22, 23, 25, 26, 27, 28,
   29]

/-- The number of the part of a syllable that a letter of the grid stands for. -/
def letterNumber? (letters : List Nat) (b : Nat) : Option Nat :=
  if b < 0xA1 then none else letters.idxOf? (b - 0xA1)

/-- The syllable that three letters of the grid spell out; a filler stands for no last part. -/
def spelled? (first middle last : Nat) : Option Char := do
  let first ← letterNumber? firstLetters first
  let last ← if last == 0xD4 then some 0 else (letterNumber? lastLetters last).map (· + 1)
  if 0xBF ≤ middle && middle ≤ 0xD3 then some (syllable first (middle - 0xBF) last) else none

/-- The character at the front, where syllables may be spelled out. -/
def readSpelled (b : Nat) (rest : Bytes) : Reading :=
  match b, rest with
  | 0xA4, 0xD4 :: more =>
    match more with
    | 0xA4 :: first :: 0xA4 :: middle :: 0xA4 :: last :: _ =>
      match spelled? first.toNat middle.toNat last.toNat with
      | some char => .chars [char] 7
      | none => .wrong 0
    | _ => if more.length < 6 then .short else .wrong 0
  | b, rest => readTwo (gridPair? ksGrid 160) b rest

/-- The syllables that a grid does not have, in their order. -/
def otherSyllables (grid : Array Char) : Array Char :=
  let present := grid.foldl (fun marks c => marks.setIfInBounds (c.toNat - 0xAC00) true)
    (Array.replicate 11172 false)
  ((List.range 11172).filterMap fun n =>
    if present.getD n false then none else some (Char.ofNat (0xAC00 + n))).toArray

/-- The syllables around the grid. -/
def aroundKsGrid : Array Char := otherSyllables ksGrid

/-- The number of a second byte that is a letter or has the high bit. -/
def unifiedNumber? (c : Nat) : Option Nat :=
  if 0x41 ≤ c && c ≤ 0x5A then some (c - 0x41)
  else if 0x61 ≤ c && c ≤ 0x7A then some (c - 0x61 + 26)
  else if 0x81 ≤ c && c ≤ 0xFE then some (c - 0x81 + 52)
  else none

/-- The syllable of a pair of bytes around the grid. -/
def aroundKs? (b c : Nat) : Option Char := do
  let n ← unifiedNumber? c
  if 0x81 ≤ b && b ≤ 0xA0 then aroundKsGrid[(b - 0x81) * 178 + n]?
  else if 0xA1 ≤ b && n < 84 then aroundKsGrid[5696 + (b - 0xA1) * 84 + n]?
  else none

/-- The characters of a pair of bytes in or around the grid. -/
def unified? (b c : Nat) : Option (List Char) :=
  (gridPair? ksGrid 160 b c).or ((aroundKs? b c).map ([·]))

/-- What five bits say of a part of a syllable. -/
inductive Part where
  /-- The part is not there. -/
  | absent
  /-- The part with a number. -/
  | present (n : Nat)

/-- The first part of a syllable. -/
def firstPart? (n : Nat) : Option Part :=
  if n == 1 then some .absent else if 2 ≤ n && n ≤ 20 then some (.present (n - 2)) else none

/-- The middle part of a syllable. -/
def middlePart? (n : Nat) : Option Part :=
  if n == 2 then some .absent
  else if 3 ≤ n && n ≤ 7 then some (.present (n - 3))
  else if 10 ≤ n && n ≤ 15 then some (.present (n - 5))
  else if 18 ≤ n && n ≤ 23 then some (.present (n - 7))
  else if 26 ≤ n && n ≤ 29 then some (.present (n - 9))
  else none

/-- The last part of a syllable. -/
def lastPart? (n : Nat) : Option Part :=
  if n == 1 then some .absent
  else if 2 ≤ n && n ≤ 17 then some (.present (n - 1))
  else if 19 ≤ n && n ≤ 29 then some (.present (n - 2))
  else none

/-- The letter with a distance in the block of letters. -/
def ksLetter (n : Nat) : Char := Char.ofNat (0x3131 + n)

/-- The character with the given parts: a syllable, a letter, or a blank. -/
def joined? : Part → Part → Part → Option Char
  | .absent, .absent, .absent => some '\u3000'
  | .present first, .absent, .absent => (firstLetters[first]?).map ksLetter
  | .absent, .present middle, .absent => some (ksLetter (30 + middle))
  | .absent, .absent, .present last => (lastLetters[last - 1]?).map ksLetter
  | .present first, .present middle, .absent => some (syllable first middle 0)
  | .present first, .present middle, .present last => some (syllable first middle last)
  | _, _, _ => none

/-- The character of a pair of bytes that is not made of parts. -/
def outside? (b c : Nat) : Option Char :=
  if b < 0xD9 || b == 0xDF || 0xF9 < b || c < 0x31 || (0x80 ≤ c && c < 0x91) || c % 128 == 0x7F ||
      (b == 0xDA && 0xA1 ≤ c && c ≤ 0xD3) then none
  else
    let row := if b < 0xE0 then 2 * (b - 0xD9) else 2 * b - 0x197
    let cell := if c < 0x91 then c - 0x31 else c - 0x43
    if cell < 94 then gridCell? ksGrid (row + 1) (cell + 1)
    else gridCell? ksGrid (row + 2) (cell - 94 + 1)

/-- The character of a pair of bytes in the set with parts. -/
def joinedPair? (b c : Nat) : Option Char :=
  if b < 0xD8 then do
    let bits := b * 256 + c
    joined? (← firstPart? (bits / 1024 % 32)) (← middlePart? (bits / 32 % 32))
      (← lastPart? (bits % 32))
  else outside? b c

/-- Korean sets without switches. -/
def koreanSets : List Charset :=
  [lossy "euc_kr"
     ["euckr", "korean", "ks_c_5601", "ks_c_5601_1987", "ks_x_1001", "ksc5601", "ksx1001",
      "x_mac_korean"] (readEach readSpelled),
   lossy "cp949" ["949", "ms949", "uhc"] (readEach (readTwo unified?)),
   lossy "johab" ["cp1361", "ms1361"]
     (readEach (readTwo fun b c => (joinedPair? b c).map ([·])))]

end JourneyCost.Charset
