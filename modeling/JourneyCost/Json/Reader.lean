import JourneyCost.Json.Token

/-!
# Reading documents

A document is read from its lexemes by a machine with a stack of open lists and objects.  Each
lexeme is one step, so reading is a fold.  In an object the last value of a repeated member
counts, at the place of the first.
-/

namespace JourneyCost.Json

/-- A list or object that is still open. -/
inductive Frame where
  /-- A list, with its items so far listed backwards. -/
  | list (read : List Json)
  /-- An object, with its members so far and the name of the member to come. -/
  | object (read : Fields) (key : String)

/-- What the machine waits for. -/
inductive Expect where
  /-- A value. -/
  | value
  /-- The first item of a list, or its end. -/
  | firstItem
  /-- The first member of an object, or its end. -/
  | firstKey
  /-- A further member of an object. -/
  | key
  /-- The colon after the name of a member. -/
  | colon
  /-- A comma, or the end of the innermost list or object. -/
  | separator
  /-- Nothing more: the document is complete. -/
  | done (value : Json)

/-- The state of the machine. -/
structure Machine where
  /-- The open lists and objects, the innermost first. -/
  stack : List Frame
  /-- What comes next. -/
  expect : Expect

/-- The machine before the first lexeme. -/
def Machine.start : Machine := ⟨[], .value⟩

/-- The machine after a complete value. -/
def Machine.accept (stack : List Frame) (value : Json) : Machine :=
  match stack with
  | [] => ⟨[], .done value⟩
  | .list read :: outer => ⟨.list (value :: read) :: outer, .separator⟩
  | .object read key :: outer => ⟨.object (read.put key value) key :: outer, .separator⟩

/-- The machine after a lexeme that opens a value, or is one. -/
def Machine.begin (stack : List Frame) : Token → Except Fault Machine
  | .openObject => .ok ⟨.object [] "" :: stack, .firstKey⟩
  | .openList => .ok ⟨.list [] :: stack, .firstItem⟩
  | .quoted s => .ok (.accept stack (text s))
  | .scalar value => .ok (.accept stack value)
  | .fault cause => .error cause
  | _ => .error .malformedDocument

/-- One lexeme. -/
def Machine.step (m : Machine) (token : Token) : Except Fault Machine :=
  match token, m.expect, m.stack with
  | token, .value, stack => Machine.begin stack token
  | .closeList, .firstItem, .list _ :: outer => .ok (.accept outer (list []))
  | token, .firstItem, stack => Machine.begin stack token
  | .closeObject, .firstKey, .object .. :: outer => .ok (.accept outer (object []))
  | .quoted s, .firstKey, .object read _ :: outer => .ok ⟨.object read s :: outer, .colon⟩
  | .quoted s, .key, .object read _ :: outer => .ok ⟨.object read s :: outer, .colon⟩
  | .colon, .colon, stack => .ok ⟨stack, .value⟩
  | .comma, .separator, .list read :: outer => .ok ⟨.list read :: outer, .value⟩
  | .comma, .separator, .object read key :: outer => .ok ⟨.object read key :: outer, .key⟩
  | .closeList, .separator, .list read :: outer => .ok (.accept outer (list read.reverse))
  | .closeObject, .separator, .object read _ :: outer => .ok (.accept outer (object read))
  | _, _, _ => .error .malformedDocument

/-- The document with the given lexemes. -/
def ofTokens (tokens : List Token) : Except Fault Json := do
  match (← tokens.foldlM Machine.step .start).expect with
  | .done value => .ok value
  | _ => .error .malformedDocument

/-- The document that a text holds.  A byte order mark is no part of a document.  The nesting has no
limit here; `FitsIn` tells which texts a reader with a limit reads alike. -/
def read (s : String) : Except Fault Json := ofTokens (tokens s.toList)

end JourneyCost.Json
