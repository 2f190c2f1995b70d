import JourneyCost.Geo.Position

/-!
# Fuel prices

The fuel data set maps states to cities and cities to prices by kind of fuel.  For one kind of
fuel it amounts to a list of entries, in the order of the document.
-/

namespace JourneyCost.Fuel

/-- The price of one kind of fuel in one city. -/
structure Entry where
  /-- The state. -/
  state : String
  /-- The city. -/
  city : String
  /-- Price of a litre. -/
  price : Float
  /-- The position of the city, if it is known. -/
  location : Option Point

/-- The entry of a city, if it has a price for the kind of fuel that can be read. -/
def cityEntry (kind state : String) (city : String × Json) : Except Fault (Option Entry) :=
  match city.2 with
  | .object values =>
    match Fields.get values kind with
    | .null => .ok none
    | price => do
      match ← recoverWhen Fault.isUnreadable none (price.toNumber.map some) with
      | none => return none
      | some amount =>
        return some ⟨state, city.1, amount, ← Geo.positionOf (Fields.get values "location")⟩
  | _ => .ok none

/-- The entries of a state. -/
def stateEntries (kind : String) (state : String × Json) : Except Fault (List Entry) :=
  match state.2 with
  | .object cities => do
    return (← cities.mapM (cityEntry kind state.1)).filterMap id
  | _ => .ok []

/-- All entries for one kind of fuel. -/
def entries (kind : String) : Json → Except Fault (List Entry)
  | .object states => do return (← states.mapM (stateEntries kind)).flatten
  | _ => .ok []

end JourneyCost.Fuel
