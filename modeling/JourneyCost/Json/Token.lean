import JourneyCost.Json.Value

/-!
# Lexemes of a document

The characters of a document fall into punctuation, texts, and words (numbers and names).  The
first fault ends the sequence of lexemes, so that whoever reads them meets faults in the order
of the text.
-/

namespace JourneyCost.Json

/-- A lexeme. -/
inductive Token where
  /-- An opening brace. -/
  | openObject
  /-- A closing brace. -/
  | closeObject
  /-- An opening bracket. -/
  | openList
  /-- A closing bracket. -/
  | closeList
  /-- A colon. -/
  | colon
  /-- A comma. -/
  | comma
  /-- A quoted text. -/
  | quoted (value : String)
  /-- A number or a name. -/
  | scalar (value : Json)
  /-- The first fault. -/
  | fault (cause : Fault)

/-- White space between lexemes. -/
def isGap (c : Char) : Bool := c == ' ' || c == '\t' || c == '\n' || c == '\r'

/-- Punctuation with its lexeme. -/
def punctuation? : Char → Option Token
  | '\x7b' => some .openObject
  | '\x7d' => some .closeObject
  | '[' => some .openList
  | ']' => some .closeList
  | ':' => some .colon
  | ',' => some .comma
  | _ => none

/-- The value of a hexadecimal digit. -/
def hexDigit? (c : Char) : Option Nat :=
  if '0' ≤ c && c ≤ '9' then some (c.toNat - 48)
  else if 'a' ≤ c && c ≤ 'f' then some (c.toNat - 87)
  else if 'A' ≤ c && c ≤ 'F' then some (c.toNat - 55)
  else none

/-- The value of four hexadecimal digits. -/
def hexUnit? (a b c d : Char) : Option Nat := do
  return 4096 * (← hexDigit? a) + 256 * (← hexDigit? b) + 16 * (← hexDigit? c) + (← hexDigit? d)

/-- Whether a code is the first half of a surrogate pair. -/
def isHighSurrogate (code : Nat) : Bool := 0xD800 ≤ code && code < 0xDC00

/-- Whether a code is the second half of a surrogate pair. -/
def isLowSurrogate (code : Nat) : Bool := 0xDC00 ≤ code && code < 0xE000

/-- Codes as characters, with surrogate pairs joined.  A text here cannot hold a lone half of a pair
and gets a replacement mark for it, where a text that allows them would keep the half. -/
def joinSurrogates : List Nat → List Char
  | [] => []
  | [code] => [if isHighSurrogate code || isLowSurrogate code then '\ufffd' else Char.ofNat code]
  | high :: low :: rest =>
    if isHighSurrogate high && isLowSurrogate low then
      Char.ofNat (0x10000 + (high - 0xD800) * 1024 + (low - 0xDC00)) :: joinSurrogates rest
    else if isHighSurrogate high || isLowSurrogate high then
      '\ufffd' :: joinSurrogates (low :: rest)
    else Char.ofNat high :: joinSurrogates (low :: rest)

/-- The character that a single-letter escape stands for. -/
def escaped? : Char → Option Char
  | '"' => some '"'
  | '\\' => some '\\'
  | '/' => some '/'
  | 'b' => some '\x08'
  | 'f' => some '\x0c'
  | 'n' => some '\n'
  | 'r' => some '\r'
  | 't' => some '\t'
  | _ => none

/-- The names of a document. -/
def name? (cs : List Char) : Option Json :=
  if cs == "null".toList then some null
  else if cs == "true".toList then some (bool true)
  else if cs == "false".toList then some (bool false)
  else if cs == "NaN".toList then some (float Decimal.undefinedFloat)
  else if cs == "Infinity".toList then some (float Decimal.infinity)
  else if cs == "-Infinity".toList then some (float (-Decimal.infinity))
  else none

/-- Integers with more digits are refused. -/
def digitLimit : Nat := 4300

/-- The digits of a whole part: a lone zero, or digits that begin with another one. -/
def wholePart (cs : List Char) : List Char × List Char :=
  match cs with
  | '0' :: rest => (['0'], rest)
  | _ => (cs.takeWhile Decimal.isDigit, cs.dropWhile Decimal.isDigit)

/-- The digits after a point, if there are any. -/
def fractionPart (cs : List Char) : List Char × List Char :=
  match cs with
  | '.' :: rest =>
    let digits := rest.takeWhile Decimal.isDigit
    if digits.isEmpty then ([], cs) else (digits, rest.dropWhile Decimal.isDigit)
  | _ => ([], cs)

/-- An exponent, if there is a whole one. -/
def exponentPart (cs : List Char) : Option Int × List Char :=
  match cs with
  | c :: rest =>
    if c == 'e' || c == 'E' then
      let (negative, tail) := Decimal.splitSign rest
      let digits := tail.takeWhile Decimal.isDigit
      if digits.isEmpty then (none, cs)
      else
        let size : Int := Decimal.ofDigits digits
        (some (if negative then -size else size), tail.dropWhile Decimal.isDigit)
    else (none, cs)
  | [] => (none, [])

/-- The lexemes of a word: a name, or the longest number at its start and a fault for the rest. -/
def wordTokens (cs : List Char) : List Token :=
  match name? cs with
  | some value => [.scalar value]
  | none =>
    let (negative, unsigned) :=
      match cs with
      | '-' :: rest => (true, rest)
      | _ => (false, cs)
    let (whole, rest) := wholePart unsigned
    if whole.isEmpty then [.fault .malformedDocument]
    else
      let (fraction, rest) := fractionPart rest
      let (exponent, rest) := exponentPart rest
      let tail := if rest.isEmpty then [] else [.fault .malformedDocument]
      if fraction.isEmpty && exponent.isNone then
        if digitLimit < whole.length then [.fault .malformed]
        else
          let size : Int := Decimal.ofDigits whole
          .scalar (int (if negative then -size else size)) :: tail
      else
        let numeral : Decimal.Numeral :=
          ⟨negative, Decimal.ofDigits (whole ++ fraction), exponent.getD 0 - fraction.length⟩
        .scalar (float numeral.toFloat) :: tail

/-- Where the reader of lexemes stands. -/
inductive Mode where
  /-- Between two lexemes. -/
  | between
  /-- Inside a word, whose characters are listed backwards. -/
  | word (read : List Char)
  /-- Inside a quoted text, whose codes are listed backwards. -/
  | quoted (read : List Nat)

/-- The lexemes that a word in progress amounts to. -/
def Mode.pending : Mode → List Token
  | .word read => wordTokens read.reverse
  | _ => []

/-- Whether a sequence of lexemes ends in a fault. -/
def endsInFault (tokens : List Token) : Bool :=
  match tokens.getLast? with
  | some (.fault _) => true
  | _ => false

/-- The lexemes of a text, from a given place on. -/
def tokensFrom : Mode → List Char → List Token
  | .quoted _, [] => [.fault .malformedDocument]
  | .quoted read, '\\' :: 'u' :: a :: b :: c :: d :: rest =>
    match hexUnit? a b c d with
    | some unit => tokensFrom (.quoted (unit :: read)) rest
    | none => [.fault .malformedDocument]
  | .quoted read, '\\' :: c :: rest =>
    match escaped? c with
    | some plain => tokensFrom (.quoted (plain.toNat :: read)) rest
    | none => [.fault .malformedDocument]
  | .quoted read, c :: rest =>
    if c == '"' then
      .quoted (String.ofList (joinSurrogates read.reverse)) :: tokensFrom .between rest
    else if c.toNat < 32 || c == '\\' then [.fault .malformedDocument]
    else tokensFrom (.quoted (c.toNat :: read)) rest
  | mode, [] => mode.pending
  | mode, c :: rest =>
    match punctuation? c with
    | some token =>
      if endsInFault mode.pending then mode.pending
      else mode.pending ++ token :: tokensFrom .between rest
    | none =>
      if isGap c then
        if endsInFault mode.pending then mode.pending
        else mode.pending ++ tokensFrom .between rest
      else if c == '"' then
        if endsInFault mode.pending then mode.pending
        else mode.pending ++ tokensFrom (.quoted []) rest
      else
        match mode with
        | .word read => tokensFrom (.word (c :: read)) rest
        | _ => tokensFrom (.word [c]) rest

/-- The lexemes of a text. -/
def tokens (cs : List Char) : List Token := tokensFrom .between cs

end JourneyCost.Json
