import JourneyCost.Charset.JisRows
import JourneyCost.Charset.JisSupplement

/-!
# Japanese sets

Three grids are in use: JIS X 0208, its supplement, and the two planes of JIS X 0213.  One family
of sets has row and cell with the high bit as bytes, the other moves both so that the half-wide
letters keep their single bytes.
-/

namespace JourneyCost.Charset

open Text

/-- The first plane of JIS X 0213. -/
def jisGrid : Array Char := gridCells jisRows

/-- The second plane of JIS X 0213. -/
def jisSecondGrid : Array Char := gridCells jisSecondRows

/-- The grid of JIS X 0212. -/
def jisSupplementGrid : Array Char := gridCells jisSupplementRows

/-- Rows of JIS X 0208 that are not full, with the first and the last cell of each part. -/
def jisParts : List (Nat × Nat × Nat) :=
  [(2, 1, 14), (2, 26, 33), (2, 42, 48), (2, 60, 74), (2, 82, 89), (2, 94, 94), (3, 16, 25),
   (3, 33, 58), (3, 65, 90), (4, 1, 83), (5, 1, 86), (6, 1, 24), (6, 33, 56), (7, 1, 33),
   (7, 49, 81), (8, 1, 32), (47, 1, 51), (84, 1, 6)]

/-- Whether JIS X 0208 has a cell. -/
def inJis (row cell : Nat) : Bool :=
  row == 1 || (16 ≤ row && row ≤ 83 && row != 47) ||
    jisParts.any fun part => part.1 == row && part.2.1 ≤ cell && cell ≤ part.2.2

/-- The character of JIS X 0208 in a cell. -/
def jisChar? (row cell : Nat) : Option Char :=
  if inJis row cell then gridCell? jisGrid row cell else none

/-- The character of JIS X 0212 in a cell. -/
def jisSupplementChar? (row cell : Nat) : Option Char := gridCell? jisSupplementGrid row cell

/-- The editions of JIS X 0213. -/
inductive JisEdition where
  /-- The edition of 2000. -/
  | first
  /-- The edition of 2004. -/
  | second

/-- The characters of the first plane of JIS X 0213 in a cell; a mark stands in the cells that the
first edition left empty. -/
def JisEdition.chars? (edition : JisEdition) (row cell : Nat) : Option (List Char) :=
  match edition, jisNewCells.contains (row, cell) with
  | .first, true => some [replacement]
  | _, _ =>
    match jisPairs.lookup (row, cell) with
    | some pair => some pair.toList
    | none => (gridCell? jisGrid row cell).map ([·])

/-- The character of the second plane of JIS X 0213 in a cell. -/
def jisSecondChar? (row cell : Nat) : Option Char := gridCell? jisSecondGrid row cell

/-- The character of the second plane in a cell; the first edition has another form in one. -/
def JisEdition.secondChar? (edition : JisEdition) (row cell : Nat) : Option Char :=
  match edition, row, cell with
  | .first, 93, 27 => some '鬝'
  | _, row, cell => jisSecondChar? row cell

/-- The half-wide letter with a byte. -/
def halfWide? (b : Nat) : Option Char :=
  if 0xA1 ≤ b && b ≤ 0xDF then some (Char.ofNat (0xFEC0 + b)) else none

/-- The row and the cell of two moved bytes. -/
def movedCell? (b c : Nat) : Option (Nat × Nat) :=
  let isFirst := (0x81 ≤ b && b ≤ 0x9F) || (0xE0 ≤ b && b ≤ 0xFC)
  if !isFirst || c < 0x40 || c == 0x7F || 0xFC < c then none
  else
    let row := 2 * (if b < 0xE0 then b - 0x81 else b - 0xC1) + 1
    let cell := (if c < 0x80 then c - 0x40 else c - 0x41) + 1
    some (if cell ≤ 94 then (row, cell) else (row + 1, cell - 94))

/-- The characters at the front in a set with moved bytes, with the single bytes of the set. -/
def readMoved (single? : Nat → Option Char) (cell? : Nat → Nat → Option (List Char)) (b : Nat)
    (rest : Bytes) : Reading :=
  match single? b, rest with
  | some c, _ => .chars [c] 0
  | none, [] => if b == 0x80 || b == 0xA0 || 0xFD ≤ b then .wrong 0 else .short
  | none, c :: _ =>
    match (movedCell? b c.toNat).bind fun place => cell? place.1 place.2 with
    | some chars => .ofCell chars 1
    | none => .wrong 0

/-- The single bytes of the usual set. -/
def plainSingle? (b : Nat) : Option Char :=
  if b < 0x80 then some (Char.ofNat b) else halfWide? b

/-- The single bytes of the national set, with a currency sign and an overline. -/
def nationalSingle? (b : Nat) : Option Char :=
  if b == 0x5C then some '¥' else if b == 0x7E then some '‾' else plainSingle? b

/-- The single bytes of the set of a maker of systems. -/
def makerSingle? (b : Nat) : Option Char :=
  if b == 0x80 then some '\x80'
  else if b == 0xA0 then some '\uf8f0'
  else if 0xFD ≤ b then some (Char.ofNat (0xF8F1 + (b - 0xFD)))
  else plainSingle? b

/-- Signs that the set of a maker of systems has as wide forms. -/
def makerForms : List ((Nat × Nat) × Char) :=
  [((1, 33), '～'), ((1, 34), '∥'), ((1, 61), '－'), ((1, 81), '￠'), ((1, 82), '￡'),
   ((2, 44), '￢')]

/-- The grids of the added rows. -/
def makerGrids : List (Nat × Array Char) :=
  [(13, chartCells makerSigns), (89, chartCells makerRows), (115, chartCells makerLastRows)]

/-- The character in a cell of the set of a maker of systems; rows 95 to 114 are private. -/
def makerChar? (row cell : Nat) : Option Char :=
  match makerForms.lookup (row, cell) with
  | some c => some c
  | none =>
    if 95 ≤ row && row ≤ 114 then some (Char.ofNat (0xE000 + (row - 95) * 94 + (cell - 1)))
    else
      (makerGrids.findSome? fun (first, cells) =>
        if first ≤ row then cell? cells ((row - first) * 94 + (cell - 1)) else none).or
        (jisChar? row cell)

/-- The rows of the second plane that follow the first plane in the moved sets. -/
def movedSecondRows : List Nat :=
  [1, 8, 3, 4, 5, 12, 13, 14, 15, 78, 79, 80, 81, 82, 83, 84, 85, 86, 87, 88, 89, 90, 91, 92, 93,
   94]

/-- The characters of JIS X 0213 in a cell of the moved sets. -/
def JisEdition.movedChars? (edition : JisEdition) (row cell : Nat) : Option (List Char) :=
  if row == 1 && cell == 32 then some ['\\']
  else if row ≤ 94 then edition.chars? row cell
  else do return [← edition.secondChar? (← movedSecondRows[row - 95]?) cell]

/-- The row or the cell of a byte with the high bit. -/
def highPlace (b : Nat) : Nat := b - 0xA0

/-- The characters at the front in a set with the high bit: a basic byte, a half-wide letter after
one mark, a cell of further rows after another, or a cell. -/
def readHigh (further? chars? : Nat → Nat → Option (List Char)) (b : Nat) (rest : Bytes) :
    Reading :=
  if b < 0x80 then .chars [Char.ofNat b] 0
  else
    match b, rest with
    | 0x8E, c :: _ =>
      match halfWide? c.toNat with
      | some letter => .chars [letter] 1
      | none => .wrong 0
    | 0x8F, c :: d :: _ =>
      match further? (highPlace c.toNat) (highPlace d.toNat) with
      | some chars => .chars chars 2
      | none => .wrong 0
    | 0x8F, _ => .short
    | _, [] => .short
    | _, c :: _ =>
      match chars? (highPlace b) (highPlace c.toNat) with
      | some chars => .ofCell chars 1
      | none => .wrong 0

/-- The characters of JIS X 0213 in a cell of a set with the high bit. -/
def JisEdition.highChars? (edition : JisEdition) (row cell : Nat) : Option (List Char) :=
  if row == 2 && cell == 18 then some ['～'] else edition.chars? row cell

/-- The further characters of a set with the high bit. -/
def JisEdition.furtherChars? (edition : JisEdition) (row cell : Nat) : Option (List Char) :=
  ((edition.secondChar? row cell).or (jisSupplementChar? row cell)).map ([·])

/-- Japanese sets without switches. -/
def japaneseSets : List Charset :=
  [lossy "shift_jis" ["csshiftjis", "s_jis", "shiftjis", "sjis", "x_mac_japanese"]
     (readEach (readMoved plainSingle? fun row cell => (jisChar? row cell).map ([·]))),
   lossy "cp932" ["932", "ms932", "ms_kanji", "mskanji"]
     (readEach (readMoved makerSingle? fun row cell => (makerChar? row cell).map ([·]))),
   lossy "shift_jisx0213" ["s_jisx0213", "shiftjisx0213", "sjisx0213"]
     (readEach (readMoved nationalSingle? JisEdition.first.movedChars?)),
   lossy "shift_jis_2004" ["s_jis_2004", "shiftjis2004", "sjis_2004"]
     (readEach (readMoved nationalSingle? JisEdition.second.movedChars?)),
   lossy "euc_jp" ["eucjp", "u_jis", "ujis"]
     (readEach (readHigh (fun row cell => (jisSupplementChar? row cell).map ([·]))
       fun row cell => (jisChar? row cell).map ([·]))),
   lossy "euc_jisx0213" ["eucjisx0213"]
     (readEach (readHigh JisEdition.first.furtherChars? JisEdition.first.highChars?)),
   lossy "euc_jis_2004" ["euc_jis2004", "eucjis2004", "jisx0213"]
     (readEach (readHigh JisEdition.second.furtherChars? JisEdition.second.highChars?))]

end JourneyCost.Charset
