import JourneyCost.Charset.GbRows

/-!
# Chinese sets with simple ideographs

The grid of GB 2312 is in use with the high bit, or between marks in a basic text.  A larger set
fills the pairs of bytes around the grid with the other ideographs of the unified block, in their
order.  The largest set has all characters: what has no pair of bytes has four bytes, in order.
-/

namespace JourneyCost.Charset

open Text

/-- The grid of GB 2312. -/
def gbGrid : Array Char := gridCells gbRows

/-- The ideographs of the unified block that a grid does not have, in their order. -/
def otherIdeographs (grid : Array Char) : List Char :=
  let present := grid.foldl (fun marks c => marks.setIfInBounds (c.toNat - 0x4E00) true)
    (Array.replicate 20902 false)
  (List.range 20902).filterMap fun n =>
    if present.getD n false then none else some (Char.ofNat (0x4E00 + n))

/-- Ideographs of a compatibility block that the larger set has too. -/
def compatibleIdeographs : List Nat :=
  [0xF92C, 0xF979, 0xF995, 0xF9E7, 0xF9F1, 0xFA0C, 0xFA0D, 0xFA0E, 0xFA0F, 0xFA11, 0xFA13, 0xFA14,
   0xFA18, 0xFA1F, 0xFA20, 0xFA21, 0xFA23, 0xFA24, 0xFA27, 0xFA28, 0xFA29]

/-- The ideographs around the grid, in the order of their pairs of bytes. -/
def aroundGrid : Array Char :=
  (otherIdeographs gbGrid ++ compatibleIdeographs.map Char.ofNat).toArray

/-- The number of a second byte, which is not DEL. -/
def secondNumber (c : Nat) : Nat := if c < 0x7F then c - 0x40 else c - 0x41

/-- Whether a pair of bytes can have a character. -/
def isPlace (b c : Nat) : Bool := 0x81 ≤ b && b ≤ 0xFE && 0x40 ≤ c && c ≤ 0xFE && c != 0x7F

/-- Signs around the grid: the first pair of bytes of each run, and its characters. -/
def signRuns : List (Nat × Nat × String) :=
  [(0xA2, 0xA1, "ⅰⅱⅲⅳⅴⅵⅶⅷⅸⅹ"),
   (0xA6, 0xE0, "︵︶︹︺︿﹀︽︾﹁﹂﹃﹄"),
   (0xA6, 0xEE, "︻︼︷︸︱"),
   (0xA6, 0xF4, "︳︴"),
   (0xA8, 0x40,
     "ˊˋ˙–―‥‵℅℉↖↗↘↙∕∟∣≒≦≧⊿═║╒╓╔╕╖╗╘╙╚╛╜╝╞╟╠╡╢╣╤╥╦╧╨╩╪╫╬╭╮╯╰╱╲╳▁▂▃▄▅▆▇█▉▊▋▌▍▎▏▓▔▕▼▽◢◣◤◥☉⊕〒〝〞"),
   (0xA8, 0xBB, "ɑ"),
   (0xA8, 0xBD, "ńň"),
   (0xA8, 0xC0, "ɡ"),
   (0xA9, 0x40, "〡〢〣〤〥〦〧〨〩㊣㎎㎏㎜㎝㎞㎡㏄㏎㏑㏒㏕︰￢￤"),
   (0xA9, 0x59, "℡㈱"),
   (0xA9, 0x5C, "‐"),
   (0xA9, 0x60, "ー゛゜ヽヾ〆ゝゞ﹉﹊﹋﹌﹍﹎﹏﹐﹑﹒﹔﹕﹖﹗﹙﹚﹛﹜﹝﹞﹟﹠﹡﹢﹣﹤﹥﹦﹨﹩﹪﹫"),
   (0xA9, 0x96, "〇")]

/-- The character of a pair of bytes in a list of runs. -/
def runChar? (runs : List (Nat × Nat × String)) (b c : Nat) : Option Char :=
  runs.findSome? fun (lead, first, chars) =>
    if lead == b && secondNumber first ≤ secondNumber c then
      (chars.toList[secondNumber c - secondNumber first]?).filter (· != replacement)
    else none

/-- The character of a pair of bytes in the larger set. -/
def largerChar? (b c : Nat) : Option Char :=
  if !isPlace b c then none
  else if b == 0xA1 && c == 0xA4 then some '·'
  else if b == 0xA1 && c == 0xAA then some '—'
  else
    match if 0xA0 < b && 0xA0 < c then gridCell? gbGrid (b - 0xA0) (c - 0xA0) else none with
    | some char => some char
    | none =>
      if b ≤ 0xA0 then cell? aroundGrid ((b - 0x81) * 190 + secondNumber c)
      else if 0xAA ≤ b && c ≤ 0xA0 then cell? aroundGrid (6080 + (b - 0xAA) * 96 + secondNumber c)
      else runChar? signRuns b c

/-- Signs that only the largest set has; a mark stands for a private character. -/
def lateRuns : List (Nat × Nat × String) :=
  [(0xA2, 0xE3, "€"),
   (0xA8, 0xBF, "ǹ"),
   (0xA9, 0x89, "〾⿰⿱⿲⿳⿴⿵⿶⿷⿸⿹⿺⿻"),
   (0xFE, 0x50, "⺁���⺄㑳㑇⺈⺋�㖞㘚㘎⺌⺗㥮㤘�㧏㧟㩳㧐��㭎㱮㳠⺧��⺪䁖䅟⺮䌷⺳⺶⺷�䎱䎬⺻䏝䓖䙡䙌�䜣䜩䝼䞍⻊䥇䥺䥽䦂䦃䦅䦆䦟䦛䦷䦶��䲣䲟䲠䲡䱷䲢䴓䴔䴕䴖䴗䴘䴙䶮�")]

/-- Runs of pairs of bytes that the largest set gives private characters, in their order: first
byte, second byte, and how many. -/
def privateRuns : List (Nat × Nat × Nat) :=
  [(0xA2, 0xAB, 6), (0xA2, 0xE3, 2), (0xA2, 0xEF, 2), (0xA2, 0xFD, 2), (0xA4, 0xF4, 11),
   (0xA5, 0xF7, 8), (0xA6, 0xB9, 8), (0xA6, 0xD9, 7), (0xA6, 0xEC, 2), (0xA6, 0xF3, 1),
   (0xA6, 0xF6, 9), (0xA7, 0xC2, 15), (0xA7, 0xF2, 13), (0xA8, 0x96, 11), (0xA8, 0xBC, 1),
   (0xA8, 0xBF, 1), (0xA8, 0xC1, 4), (0xA8, 0xEA, 21), (0xA9, 0x58, 1), (0xA9, 0x5B, 1),
   (0xA9, 0x5D, 3), (0xA9, 0x89, 13), (0xA9, 0x97, 13), (0xA9, 0xF0, 15), (0xD7, 0xFA, 5),
   (0xFE, 0x50, 80)]

/-- The private character of a pair of bytes in runs that begin with a number. -/
def privateChar? (code : Nat) (b c : Nat) : List (Nat × Nat × Nat) → Option Char
  | [] => none
  | (lead, first, count) :: runs =>
    if lead == b && secondNumber first ≤ secondNumber c &&
        secondNumber c < secondNumber first + count then
      some (Char.ofNat (code + (secondNumber c - secondNumber first)))
    else privateChar? (code + count) b c runs

/-- The character of a pair of bytes that is free for users. -/
def userChar? (b c : Nat) : Option Char :=
  if 0xAA ≤ b && b ≤ 0xAF && 0xA1 ≤ c then
    some (Char.ofNat (0xE000 + (b - 0xAA) * 94 + (c - 0xA1)))
  else if 0xF8 ≤ b && 0xA1 ≤ c then some (Char.ofNat (0xE234 + (b - 0xF8) * 94 + (c - 0xA1)))
  else if 0xA1 ≤ b && b ≤ 0xA7 && c ≤ 0xA0 then
    some (Char.ofNat (0xE4C6 + (b - 0xA1) * 96 + secondNumber c))
  else none

/-- The character of a pair of bytes in the largest set. -/
def largestChar? (b c : Nat) : Option Char :=
  if !isPlace b c then none
  else
    (((largerChar? b c).or (runChar? lateRuns b c)).or (userChar? b c)).or
      (privateChar? 0xE766 b c privateRuns)

/-- The first characters with four bytes: those of two bytes in other forms, without the ones that
have a pair of bytes in the largest set. -/
def fourByteChars : Array Char :=
  let seconds := (List.range 190).map fun n => if n < 63 then n + 0x40 else n + 0x41
  let present := (List.range 126).foldl
    (fun marks n => seconds.foldl
      (fun (marks : Array Bool) c =>
        match largestChar? (n + 0x81) c with
        | some char => marks.setIfInBounds char.toNat true
        | none => marks)
      marks)
    (Array.replicate 65536 false)
  ((List.range 65536).filterMap fun code =>
    if code < 0x80 || (0xD800 ≤ code && code < 0xE000) || present.getD code false then none
    else some (Char.ofNat code)).toArray

/-- The character with four bytes. -/
def fourByteChar? (b c d e : Nat) : Option Char :=
  if b < 0x81 || 0xFE < b || d < 0x81 || 0xFE < d || e < 0x30 || 0x39 < e then none
  else
    let n := (((b - 0x81) * 10 + (c - 0x30)) * 126 + (d - 0x81)) * 10 + (e - 0x30)
    if b < 0x85 then fourByteChars[n]?
    else if 0x90 ≤ b && n - 189000 < 0x100000 then some (Char.ofNat (0x10000 + (n - 189000)))
    else none

/-- The character at the front in the largest set. -/
def readLargest (b : Nat) (rest : Bytes) : Reading :=
  match rest with
  | c :: more =>
    if 0x80 ≤ b && 0x30 ≤ c && c ≤ 0x39 then
      match more with
      | d :: e :: _ =>
        match fourByteChar? b c.toNat d.toNat e.toNat with
        | some char => .chars [char] 3
        | none => .wrong 0
      | _ => .short
    else readTwo (fun b c => (largestChar? b c).map ([·])) b rest
  | [] => readTwo (fun _ _ => none) b []

/-- A step between marks: `inside` tells whether pairs of bytes are cells. -/
def markedStep (inside : Bool) (b : Nat) (rest : Bytes) : Step Bool :=
  let wrong : Step Bool := ⟨[none], 0, inside⟩
  let short : Step Bool := ⟨[none], rest.length, inside⟩
  if b == 126 then
    match rest with
    | [] => short
    | c :: _ =>
      if c == 126 && !inside then ⟨[some '~'], 1, inside⟩
      else if c == 0x7B && !inside then ⟨[], 1, true⟩
      else if c == 10 && !inside then ⟨[], 1, inside⟩
      else if c == 0x7D && inside then ⟨[], 1, false⟩
      else wrong
  else if 128 ≤ b then wrong
  else if !inside then ⟨[some (Char.ofNat b)], 0, inside⟩
  else
    match rest with
    | [] => short
    | c :: _ =>
      match gridPair? gbGrid 32 b c.toNat with
      | some chars => ⟨chars.map some, 1, inside⟩
      | none => wrong

/-- Chinese sets with simple ideographs. -/
def chineseSets : List Charset :=
  [lossy "gb2312"
     ["chinese", "csiso58gb231280", "euc_cn", "euccn", "eucgb2312_cn", "gb2312_1980", "gb2312_80",
      "iso_ir_58", "x_mac_simp_chinese"] (readEach (readTwo (gridPair? gbGrid 160))),
   lossy "gbk" ["936", "cp936", "ms936"]
     (readEach (readTwo fun b c => (largerChar? b c).map ([·]))),
   lossy "gb18030" ["gb18030_2000"] (readEach readLargest),
   lossy "hz" ["hz_gb", "hz_gb_2312", "hzgb"] (readFrom markedStep 0 false)]

end JourneyCost.Charset
