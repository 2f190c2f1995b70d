import JourneyCost.Charset.Known
import JourneyCost.Json.Display
import JourneyCost.Text.LowerCase
import JourneyCost.Text.Split

/-!
# Header values

Parameters follow the main part of a value, each after a semicolon outside quotes.  A parameter may
come in numbered pieces, and a piece with a further asterisk may begin with a character set and a
language, each with an apostrophe after it.
-/

namespace JourneyCost.Service

/-- The parts of a header value. -/
def headerParts (quoted : Bool) (before : Char) : List Char → List (List Char)
  | [] => [[]]
  | c :: rest =>
    if c == ';' && !quoted then [] :: headerParts false c rest
    else
      let quoted' := if c == '"' && before != '\\' then !quoted else quoted
      match headerParts quoted' c rest with
      | [] => [[c]]
      | first :: more => (c :: first) :: more

/-- The text with a character in place of every neighbouring pair of a backslash and it. -/
def dropBackslash (escaped : Char) : List Char → List Char
  | '\\' :: c :: rest =>
    if c == escaped then c :: dropBackslash escaped rest
    else '\\' :: dropBackslash escaped (c :: rest)
  | c :: rest => c :: dropBackslash escaped rest
  | [] => []

/-- Whether a text begins and ends with marks. -/
def isBetween (first last : Char) (cs : List Char) : Bool :=
  2 ≤ cs.length && cs.head? == some first && cs.getLast? == some last

/-- A parameter value without the quotes or the angle brackets around it. -/
def unquote (cs : List Char) : List Char :=
  if isBetween '"' '"' cs then dropBackslash '"' (dropBackslash '\\' (cs.drop 1).dropLast)
  else if isBetween '<' '>' cs then (cs.drop 1).dropLast
  else cs

/-- The name and the value in a part; a part without an equals sign is a name as it stands. -/
def headerPair (part : List Char) : String × List Char :=
  match Text.cutChars '=' part with
  | (name, some value) =>
    (Text.lower (Text.trim (String.ofList name)), unquote (Text.trimmed Text.isSpacing value))
  | (name, none) => (Text.trim (String.ofList name), [])

/-- A piece of a parameter. -/
structure Piece where
  /-- The number, if there is one. -/
  number : Option Nat
  /-- The text. -/
  value : String
  /-- Whether percent signs stand for bytes. -/
  encoded : Bool

/-- Whether a character can be in the name of a parameter with pieces. -/
def isPieceNameChar (c : Char) : Bool := c.isAlphanum || c == '_'

/-- Most digits of a number. -/
def pieceDigitLimit : Nat := 4300

/-- The parameter that a piece belongs to, with the digits and the mark after the asterisk. -/
def pieceName? (name : String) : Option (String × List Char × Bool) :=
  match Text.cutChars '*' name.toList with
  | (base, some after) =>
    let digits := after.takeWhile Char.isDigit
    let mark := after.dropWhile Char.isDigit
    if base.isEmpty || !base.all isPieceNameChar then none
    else if after.isEmpty then some (String.ofList base, [], true)
    else if digits.isEmpty then none
    else if mark.isEmpty then some (String.ofList base, digits, false)
    else if mark == ['*'] then some (String.ofList base, digits, true)
    else none
  | _ => none

/-- The number in digits, of which there may not be too many. -/
def pieceNumber (digits : List Char) : Except Fault (Option Nat) :=
  if digits.isEmpty then .ok none
  else if pieceDigitLimit < digits.length then .error .malformed
  else .ok (some (digits.foldl (fun n c => n * 10 + (c.toNat - 48)) 0))

/-- The order of pieces: by number, then by text, and one with percent signs last. -/
def Piece.before (a b : Piece) : Bool :=
  match compare (a.number.getD 0) (b.number.getD 0) with
  | .lt => true
  | .gt => false
  | .eq => decide (a.value < b.value) || (a.value == b.value && (!a.encoded || b.encoded))

/-- The text with a character for each percent sign with two hexadecimal digits after it. -/
def percentChars : List Char → List Char
  | '%' :: high :: low :: rest =>
    match Json.hexDigit? high, Json.hexDigit? low with
    | some a, some b => Char.ofNat (16 * a + b) :: percentChars rest
    | _, _ => '%' :: percentChars (high :: low :: rest)
  | c :: rest => c :: percentChars rest
  | [] => []

/-- The text of a piece. -/
def Piece.chars (piece : Piece) : List Char :=
  if piece.encoded then percentChars piece.value.toList else piece.value.toList

/-- The bytes of a text: the code of each character, or an escape with it if it is too large. -/
def codeBytes (cs : List Char) : Bytes :=
  cs.flatMap fun c =>
    if c.toNat < 0x100 then [UInt8.ofNat c.toNat]
    else if c.toNat < 0x10000 then
      Text.toBytes (String.ofList ('\\' :: 'u' :: Json.hexDigits 4 c.toNat))
    else Text.toBytes (String.ofList ('\\' :: 'U' :: Json.hexDigits 8 c.toNat))

/-- The text with the given bytes in a set with a name; an unknown set is a malformed value. -/
def readNamed (name : String) (bytes : Bytes) : Except Fault String :=
  if name.toList.contains '\x00' then .error .malformed
  else if bytes.isEmpty then .ok ""
  else
    match Charset.named? name with
    | none => .error .malformed
    | some set =>
      match set.read bytes with
      | .error .noTextEncoding => .error .malformed
      | outcome => outcome

/-- The text that begins with a set and a language; without them its set is the basic one. -/
def readLabelled (cs : List Char) : Except Fault String :=
  match Text.cutChars '\'' cs with
  | (name, some rest) =>
    match Text.cutChars '\'' rest with
    | (_, some text) => readNamed (String.ofList name) (codeBytes text)
    | _ => readNamed "ascii" (codeBytes cs)
  | _ => readNamed "ascii" (codeBytes cs)

/-- The value that pieces make. -/
def readPieces (pieces : List Piece) : Except Fault String :=
  let text := ((pieces.mergeSort Piece.before).map Piece.chars).flatten
  if pieces.any (·.encoded) then readLabelled text else .ok (String.ofList text)

/-- Whether some pieces have a number and some have none. -/
def areMixed (pieces : List Piece) : Bool :=
  pieces.any (·.number.isSome) && pieces.any (·.number.isNone)

/-- The pieces of parameters, in the order in which the parameters first come. -/
def collectPieces : List (String × List Char) → Except Fault (List (String × List Piece))
  | [] => .ok []
  | (name, value) :: more =>
    match pieceName? name with
    | none => collectPieces more
    | some (base, digits, encoded) => do
      let piece : Piece := ⟨← pieceNumber digits, String.ofList value, encoded⟩
      let rest ← collectPieces more
      match rest.lookup base with
      | some pieces => return (base, piece :: pieces) :: rest.filter (·.1 != base)
      | none => return (base, [piece]) :: rest

/-- A header value. -/
structure HeaderValue where
  /-- The main part in small letters. -/
  main : String
  /-- The parameters by their names, the last one first. -/
  params : List (String × String)

/-- Longest header value. -/
def headerLimit : Nat := 10000

/-- The parameters in pairs of names and texts: those in one piece come before the others. -/
def readParams (pairs : List (String × List Char)) : Except Fault (List (String × String)) := do
  let groups ← collectPieces pairs
  if groups.any (areMixed ·.2) then throw .wrongKind
  let joined ← groups.mapM fun group => do return (group.1, ← readPieces group.2)
  let whole := (pairs.filter fun pair => (pieceName? pair.1).isNone).map fun pair =>
    (pair.1, String.ofList pair.2)
  return whole ++ joined

/-- The header value in a text. -/
def HeaderValue.ofText (s : String) : Except Fault HeaderValue :=
  let cs := s.toList
  if headerLimit < cs.length then .error .malformed
  else if !cs.contains ';' then .ok ⟨Text.trim (Text.lower s), []⟩
  else
    match headerParts false ' ' cs with
    | main :: parts => do
      return ⟨Text.lower (headerPair main).1, (← readParams (parts.map headerPair)).reverse⟩
    | [] => .ok ⟨"", []⟩

/-- A parameter of a header value. -/
def HeaderValue.param? (value : HeaderValue) (name : String) : Option String :=
  value.params.lookup name

end JourneyCost.Service
