import JourneyCost.Geo.Position
import JourneyCost.Json.Display

/-!
# Toll plazas

A plaza is read from a record of the toll data set.  Its identity is the identifier of the
record, or its name if there is none.  Identities are compared as numbers or as texts; a list or
an object identifies nothing.
-/

namespace JourneyCost.Toll

/-- A place where tolls are charged. -/
structure Plaza where
  /-- The identifier, null if there is none. -/
  id : Json
  /-- The name to show. -/
  name : String
  /-- The position, if one is known. -/
  location : Option Point
  /-- Tolls by class of vehicle. -/
  fees : Fields
  /-- The record that the plaza was read from. -/
  record : Fields

namespace Plaza

/-- The name of a plaza whose record gives none. -/
def unnamed : String := "<unknown>"

/-- The position that a record gives, in a member of its own or among its members. -/
def recordedPosition (record : Fields) : Except Fault (Option Point) :=
  match record.get "location" with
  | .object location => Geo.namedPosition location
  | .list pair => Geo.pairPosition (.list pair)
  | _ => Geo.namedPosition record

/-- Whether a position is the origin of the grid, which stands for an unknown place. -/
def isOrigin (p : Point) : Bool := p.latitude == 0 && p.longitude == 0

/-- The plaza that a record describes. -/
def ofRecord (record : Fields) : Except Fault Plaza := do
  let position ← recordedPosition record
  return {
    id := record.get "id"
    name := ((record.get "name").orElse (.text unnamed)).display
    location := position.filter fun p => !isOrigin p
    fees := (record.get "fees").fields?.getD []
    record := record }

/-- What tells a plaza from others: its identifier, or else its name. -/
def identity (plaza : Plaza) : Json :=
  match plaza.id with
  | .null => .text plaza.name
  | id => id

end Plaza

/-- Whether a document can identify a plaza. -/
def isIdentity : Json → Bool
  | .list _ | .object _ => false
  | _ => true

/-- The integer that a number or truth value equals, if it is one. -/
def wholeNumber? : Json → Option Int
  | .bool value => some (if value then 1 else 0)
  | .int value => some value
  | .float value => Decimal.wholeValue? value
  | _ => none

/-- Whether two documents identify the same plaza. -/
def sameIdentity : Json → Json → Bool
  | .text s, .text t => s == t
  | .float x, .float y => x == y || (x.isNaN && y.isNaN)
  | a, b =>
    match wholeNumber? a, wholeNumber? b with
    | some m, some n => m == n
    | _, _ => false

end JourneyCost.Toll
