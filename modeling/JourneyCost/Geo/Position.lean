import JourneyCost.Geo.Point
import JourneyCost.Json.Value

/-!
# Positions in documents

Positions come in several shapes: an object that names its coordinates in one of several ways, a
pair whose order is not declared, and the first feature of a collection.  A position that cannot
be read is no position; only a number that is too large for a float is a fault.
-/

namespace JourneyCost.Geo

/-- Names of a latitude, in order of preference. -/
def latitudeKeys : List String := ["lat", "latitude"]

/-- Names of a longitude, in order of preference. -/
def longitudeKeys : List String := ["lon", "longitude", "lng"]

/-- A point from two coordinates that are still documents. -/
def readPoint (longitude latitude : Json) : Except Fault Point := do
  let x ← longitude.toNumber
  let y ← latitude.toNumber
  return ⟨x, y⟩

/-- The position that the members of an object name. -/
def namedPosition (fields : Fields) : Except Fault (Option Point) :=
  match fields.firstPresent? latitudeKeys, fields.firstPresent? longitudeKeys with
  | some latitude, some longitude =>
    recoverWhen Fault.isUnreadable none ((readPoint longitude latitude).map some)
  | _, _ => .ok none

/-- The position in a document that should be an object. -/
def positionOf : Json → Except Fault (Option Point)
  | .object fields => namedPosition fields
  | _ => .ok none

/-- Whether two numbers can be a latitude and a longitude. -/
def fitsLatLon (first second : Float) : Bool := first.abs ≤ 90 && second.abs ≤ 180

/-- A pair of coordinates whose order is not declared: latitude first if both numbers fit,
otherwise longitude first. -/
def orient (first second : Float) : Point :=
  if fitsLatLon first second then ⟨second, first⟩ else ⟨first, second⟩

/-- The position that the first two items of a document make up. -/
def pairPosition (values : Json) : Except Fault (Option Point) := do
  if (← values.length) < 2 then return none
  recoverWhen Fault.isUnreadable none do
    let first ← (← values.item 0).toNumber
    let second ← (← values.item 1).toNumber
    return some (orient first second)

/-- The position of the first feature of a collection, longitude first. -/
def firstFeature : Json → Except Fault (Option Point)
  | .object fields =>
    let features := Fields.get fields "features"
    if !features.isTruthy then .ok none
    else
      recoverWhen Fault.isUnusable none do
        let coordinates ← (← (← features.item 0).member "geometry").member "coordinates"
        let longitude ← (← coordinates.item 0).toNumber
        let latitude ← (← coordinates.item 1).toNumber
        return some ⟨longitude, latitude⟩
  | _ => .ok none

end JourneyCost.Geo
