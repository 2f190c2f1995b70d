import JourneyCost.Geo.Position
import JourneyCost.Text.Split

/-!
# Coordinates in requests

A request gives a position as a text of two numbers with a comma between them, as a list of two
numbers, or as an object that names them.  What is read are the two coordinates; whether they lie
on the globe is checked afterwards.
-/

namespace JourneyCost.Trip

/-- Why a document is no coordinate. -/
inductive CoordinateFlaw where
  /-- A text without a comma. -/
  | tooFewParts
  /-- A text or list that does not begin with two numbers. -/
  | notTwoNumbers
  /-- An object that does not name both coordinates. -/
  | incomplete
  /-- Anything else. -/
  | unsupported
deriving DecidableEq, Repr

/-- The wording of a flaw. -/
def CoordinateFlaw.message : CoordinateFlaw → String
  | tooFewParts => "coordinate string must look like 'lat,lon'"
  | notTwoNumbers => "coordinate must contain two numbers"
  | incomplete => "coordinate object needs lat and lon"
  | unsupported => "unsupported coordinate format"

/-- Two coordinates that are still documents. -/
structure RawCoordinate where
  /-- Degrees north. -/
  latitude : Json
  /-- Degrees east. -/
  longitude : Json

/-- The coordinates of a position. -/
def RawCoordinate.ofPoint (p : Point) : RawCoordinate := ⟨.float p.latitude, .float p.longitude⟩

/-- The coordinates that the first two items of a list make up. -/
def ofItems (items : List Json) : Except Fault (Except CoordinateFlaw RawCoordinate) := do
  match ← Geo.pairPosition (.list items) with
  | some point => return .ok (.ofPoint point)
  | none => return .error .notTwoNumbers

/-- The value of the first name that is present, even if it is null. -/
def firstNamed (fields : Fields) : List String → Json
  | [] => .null
  | key :: more =>
    match fields.find? key with
    | some value => value
    | none => firstNamed fields more

/-- The coordinates that an object names. -/
def ofFields (fields : Fields) : Except CoordinateFlaw RawCoordinate :=
  let latitude := firstNamed fields Geo.latitudeKeys
  let longitude := firstNamed fields Geo.longitudeKeys
  if latitude.isNull || longitude.isNull then .error .incomplete else .ok ⟨latitude, longitude⟩

/-- The parts of a coordinate text. -/
def textParts (s : String) : List String := (Text.split ',' s).map Text.trim

/-- The coordinates in a document. -/
def readCoordinate : Json → Except Fault (Except CoordinateFlaw RawCoordinate)
  | .text s =>
    let parts := textParts s
    if parts.length < 2 then .ok (.error .tooFewParts) else ofItems (parts.map .text)
  | .list items => ofItems items
  | .object fields => .ok (ofFields fields)
  | _ => .ok (.error .unsupported)

end JourneyCost.Trip
