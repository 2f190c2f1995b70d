import JourneyCost.Charset.BigFiveRows
import JourneyCost.Charset.Basic
import JourneyCost.Charset.HongKongRows

/-!
# Chinese sets with full ideographs

A first byte with the high bit and one of one hundred and fifty-seven second bytes are a
character.  Two further sets change a few signs, or add the cells of Hong Kong.
-/

namespace JourneyCost.Charset

open Text

/-- The number of a second byte among one hundred and fifty-seven. -/
def traditionalNumber? (c : Nat) : Option Nat :=
  if 0x40 ≤ c && c ≤ 0x7E then some (c - 0x40)
  else if 0xA1 ≤ c && c ≤ 0xFE then some (c - 0xA1 + 63)
  else none

/-- The character of a pair of bytes in cells from a first byte on. -/
def traditionalCell? (first : Nat) (cells : Array Char) (b c : Nat) : Option Char := do
  let n ← traditionalNumber? c
  if b < first then none else cell? cells ((b - first) * 157 + n)

/-- The cells of Big5. -/
def bigFiveGrid : Array Char := chartCells bigFiveCells

/-- The character of a pair of bytes in Big5. -/
def bigFiveChar? (b c : Nat) : Option Char := traditionalCell? 0xA1 bigFiveGrid b c

/-- The signs that one set changes or adds. -/
def changedSigns : List ((Nat × Nat) × Char) :=
  [((0xA1, 0x45), '‧'), ((0xA1, 0x4E), '﹑'), ((0xA1, 0xC2), '¯'), ((0xA1, 0xE3), '～'),
   ((0xA1, 0xF2), '⊕'), ((0xA1, 0xF3), '⊙'), ((0xA2, 0x41), '∕'), ((0xA2, 0x42), '﹨'),
   ((0xA2, 0x44), '￥'), ((0xA2, 0x46), '￠'), ((0xA2, 0x47), '￡'), ((0xA3, 0xE1), '€')]

/-- The ideographs and frames that the same set adds, from the pair F9 and D6 on. -/
def addedSigns : String := "碁銹裏墻恒粧嫺╔╦╗╠╬╣╚╩╝╒╤╕╞╪╡╘╧╛╓╥╖╟╫╢╙╨╜║═╭╮╰╯▓"

/-- The character of a pair of bytes in Big5 with changed and added signs. -/
def changedChar? (b c : Nat) : Option Char :=
  match changedSigns.lookup (b, c) with
  | some char => some char
  | none =>
    if b == 0xF9 && 0xD6 ≤ c then addedSigns.toList[c - 0xD6]? else bigFiveChar? b c

/-- The cells of Hong Kong, with the first byte of each part. -/
def hongKongGrids : List (Nat × Array Char) :=
  [(0xF9, chartCells hongKongLast), (0xC6, chartCells hongKongMiddle),
   (0x87, chartCells hongKongFirst)]

/-- Capital and small letters with two marks, which two characters stand for. -/
def doublyMarked : List ((Nat × Nat) × List Char) :=
  [((0x88, 0x62), ['Ê', '\u0304']), ((0x88, 0x64), ['Ê', '\u030c']),
   ((0x88, 0xA3), ['ê', '\u0304']), ((0x88, 0xA5), ['ê', '\u030c'])]

/-- The character of a pair of bytes in the cells of Hong Kong. -/
def hongKongChar? (b c : Nat) : Option Char :=
  (hongKongGrids.find? (·.1 ≤ b)).bind fun (first, cells) => traditionalCell? first cells b c

/-- Whether a pair of bytes of Big5 is left out for Hong Kong. -/
def isReplaced (b c : Nat) : Bool := (b == 0xC6 && 0xA1 ≤ c) || b == 0xC7 || b == 0xC8

/-- The characters of a pair of bytes in Big5 with the cells of Hong Kong. -/
def hongKongChars? (b c : Nat) : Option (List Char) :=
  match if isReplaced b c then none else bigFiveChar? b c with
  | some char => some [char]
  | none => ((hongKongChar? b c).map ([·])).or (doublyMarked.lookup (b, c))

/-- Chinese sets with full ideographs. -/
def traditionalSets : List Charset :=
  [lossy "big5" ["big5_tw", "csbig5", "x_mac_trad_chinese"]
     (readEach (readTwo fun b c => (bigFiveChar? b c).map ([·]))),
   lossy "cp950" ["950", "ms950"] (readEach (readTwo fun b c => (changedChar? b c).map ([·]))),
   lossy "big5hkscs" ["big5_hkscs", "hkscs"] (readEach (readTwo hongKongChars?))]

end JourneyCost.Charset
