import JourneyCost.Fault
import JourneyCost.Decimal.Numeral

/-!
# Documents

A document is a JSON value.  Integers have no bound, and members keep the order in which they were
first seen.  `get?` and `find?` look a member up in an object, while `member` and `item` are defined
on every document and say what was wrong.
-/

namespace JourneyCost

/-- A JSON value. -/
inductive Json where
  /-- The null value. -/
  | null
  /-- A truth value. -/
  | bool (value : Bool)
  /-- A number written without point and exponent. -/
  | int (value : Int)
  /-- Any other number. -/
  | float (value : Float)
  /-- A text. -/
  | text (value : String)
  /-- A list. -/
  | list (items : List Json)
  /-- An object, with its members in order. -/
  | object (fields : List (String × Json))
deriving Inhabited

/-- The members of an object, in order. -/
abbrev Fields := List (String × Json)

namespace Fields

/-- The value of a member. -/
def find? (fields : Fields) (key : String) : Option Json := fields.lookup key

/-- The value of a member, null if it is absent. -/
def get (fields : Fields) (key : String) : Json := (fields.find? key).getD .null

/-- Whether a member is present. -/
def has (fields : Fields) (key : String) : Bool := (fields.find? key).isSome

/-- Sets a member: one that is present keeps its place, a new one comes last. -/
def put (fields : Fields) (key : String) (value : Json) : Fields :=
  match fields with
  | [] => [(key, value)]
  | (k, v) :: rest => if k == key then (key, value) :: rest else (k, v) :: put rest key value

/-- The first of the given members that is present and not null. -/
def firstPresent? (fields : Fields) (keys : List String) : Option Json :=
  keys.findSome? fun key =>
    match fields.find? key with
    | some .null => none
    | found => found

end Fields

namespace Json

/-- Whether the document is null. -/
def isNull : Json → Bool
  | null => true
  | _ => false

/-- The members of an object. -/
def fields? : Json → Option Fields
  | object fields => some fields
  | _ => none

/-- The items of a list. -/
def items? : Json → Option (List Json)
  | list items => some items
  | _ => none

/-- Everything but null, false, zero and what is empty. -/
def isTruthy : Json → Bool
  | null => false
  | bool value => value
  | int value => value != 0
  | float value => value != 0
  | text value => value != ""
  | list items => !items.isEmpty
  | object fields => !fields.isEmpty

/-- A document in place of another that holds nothing. -/
def orElse (value substitute : Json) : Json := if value.isTruthy then value else substitute

/-- The member of an object. -/
def member (value : Json) (key : String) : Except Fault Json :=
  match value with
  | object fields => (fields.lookup key).elim (.error .missingMember) .ok
  | _ => .error .wrongKind

/-- The item at a position of a list, or the character at a position of a text. -/
def item (value : Json) (position : Nat) : Except Fault Json :=
  match value with
  | list items => (items[position]?).elim (.error .missingItem) .ok
  | text s => (s.toList[position]?).elim (.error .missingItem) fun c => .ok (text c.toString)
  | object _ => .error .missingMember
  | _ => .error .wrongKind

/-- The number of items, characters or members. -/
def length : Json → Except Fault Nat
  | list items => .ok items.length
  | text s => .ok s.length
  | object fields => .ok fields.length
  | _ => .error .wrongKind

/-- What a loop over the document visits: items, characters, or names of members. -/
def elements : Json → Except Fault (List Json)
  | list items => .ok items
  | text s => .ok (s.toList.map fun c => text c.toString)
  | object fields => .ok (fields.map fun field => text field.1)
  | _ => .error .wrongKind

/-- The document as a float: truth values count as one and zero, texts are read. -/
def toNumber : Json → Except Fault Float
  | bool value => .ok (if value then 1 else 0)
  | int value => (Decimal.floatOfInt? value).elim (.error .overflow) .ok
  | float value => .ok value
  | text s => (Decimal.readFloat? s).elim (.error .malformed) .ok
  | _ => .error .wrongKind

end Json

end JourneyCost
