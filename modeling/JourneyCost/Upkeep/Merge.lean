import JourneyCost.Decimal.Writing
import JourneyCost.Json.Value
import JourneyCost.Upkeep.PriceRow

/-!
# Merging prices into a data set

Each row sets the price of one kind of fuel in one city, rounded to two places, and the position
of the city if the row has one.  Prices that were there before are counted as updated, others as
added.
-/

namespace JourneyCost.Upkeep

/-- A data set with the numbers of prices added and updated. -/
structure Merged where
  /-- The data set. -/
  document : Json
  /-- Prices that were not there before. -/
  added : Nat
  /-- Prices that were there before. -/
  updated : Nat

/-- A position in a data set. -/
def positionFields (latitude longitude : Float) : Json :=
  .object [("lat", .float latitude), ("lng", .float longitude)]

/-- The members of an object, or of an empty one where there is nothing. -/
def openMember (value : Json) (key : String) : Except Fault (Fields × Json) :=
  match value with
  | .object fields => .ok (fields, (fields.lookup key).getD (.object []))
  | _ => .error .notAnObject

/-- A city after a row. -/
def putPrice (row : PriceRow) (city : Fields) : Fields :=
  let priced := city.put row.fuel (.float (Decimal.roundTo 2 row.price))
  match row.latitude, row.longitude with
  | some latitude, some longitude => priced.put "location" (positionFields latitude longitude)
  | _, _ => priced

/-- A data set after a row. -/
def Merged.add (merged : Merged) (row : PriceRow) : Except Fault Merged := do
  let (states, cities) ← openMember merged.document row.state
  let (cityFields, city) ← openMember cities row.city
  match city with
  | .object values =>
    let document := .object (states.put row.state
      (.object (cityFields.put row.city (.object (putPrice row values)))))
    if Fields.has values row.fuel then
      return { merged with document := document, updated := merged.updated + 1 }
    else return { merged with document := document, added := merged.added + 1 }
  | _ => throw .wrongKind

/-- A data set after all rows. -/
def mergePrices (document : Json) (rows : List PriceRow) : Except Fault Merged :=
  rows.foldlM Merged.add ⟨document, 0, 0⟩

end JourneyCost.Upkeep
