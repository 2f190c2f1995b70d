import JourneyCost.Json.Encoding

/-!
# Nested documents

A reader that enters lists and objects by calls of itself has room for so many open ones only, and
gives up where a document needs more.  The machine has no such bound.  The two are told apart here,
and what is nested so little that both read it alike is called shallow.
-/

namespace JourneyCost.Json

/-- Why a reader with bounded room gives no document. -/
inductive Stop where
  /-- No room is left. -/
  | full
  /-- The document is at fault. -/
  | fault (cause : Fault)

/-- One lexeme, for a reader with room for so many open lists and objects. -/
def Machine.stepWithin (room : Nat) (m : Machine) (token : Token) : Except Stop Machine :=
  match m.step token with
  | .ok next => if room < next.stack.length then .error .full else .ok next
  | .error cause => .error (.fault cause)

/-- The document with the given lexemes, for a reader with bounded room. -/
def ofTokensWithin (room : Nat) (tokens : List Token) : Except Stop Json := do
  match (← tokens.foldlM (Machine.stepWithin room) .start).expect with
  | .done value => .ok value
  | _ => .error (.fault .malformedDocument)

/-- A reader with bounded room makes of lexemes what one without a bound makes of them. -/
def FitsIn (room : Nat) (tokens : List Token) : Prop :=
  ofTokensWithin room tokens = (ofTokens tokens).mapError .fault

/-- How many lists and objects are open after a lexeme. -/
def levelAfter (level : Nat) : Token → Nat
  | .openObject | .openList => level + 1
  | .closeObject | .closeList => level - 1
  | _ => level

/-- The most lists and objects that are open at once, with `level` of them open before. -/
def depthFrom (level : Nat) : List Token → Nat
  | [] => level
  | token :: rest => max level (depthFrom (levelAfter level token) rest)

/-- There is room for so many open lists and objects whatever else is under way. -/
def nestingLimit : Nat := 500

/-- The lexemes are not nested beyond the limit. -/
def IsShallow (tokens : List Token) : Prop := depthFrom 0 tokens ≤ nestingLimit

instance (tokens : List Token) : Decidable (IsShallow tokens) :=
  inferInstanceAs (Decidable (_ ≤ _))

/-- The lexemes of a document in bytes; there are none if the bytes are no text. -/
def tokensOfBytes (bytes : Bytes) : List Token :=
  let (encoding, rest) := detectEncoding bytes
  ((decodeText? encoding rest).map tokens).getD []

end JourneyCost.Json
