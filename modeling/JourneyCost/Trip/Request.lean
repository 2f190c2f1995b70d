import JourneyCost.Decimal.Writing
import JourneyCost.Expense
import JourneyCost.Trip.Check
import JourneyCost.Trip.Coordinate

/-!
# Requests for an estimate

A request names both ends of a journey, as texts or as coordinates, and says what is driven and
how.  All fields are checked before the rule about the ends, which is checked only if no field is
flawed.
-/

namespace JourneyCost.Trip

/-- A request for an estimate. -/
structure Request where
  /-- The name of the place of departure. -/
  start : Option String
  /-- The name of the destination. -/
  destination : Option String
  /-- The position of departure. -/
  startCoord : Option Point
  /-- The position of the destination. -/
  destCoord : Option Point
  /-- The vehicle. -/
  vehicle : String
  /-- Kilometres to a litre. -/
  mileage : Float
  /-- The kind of fuel. -/
  fuelKind : String
  /-- Litres in a full tank. -/
  tankCapacity : Option Float
  /-- The price of all fuel. -/
  fuelCost : Option Float
  /-- The price of a litre. -/
  fuelPrice : Option Float
  /-- The price of a litre under its second name. -/
  fuelRate : Option Float
  /-- The price of a litre under its third name. -/
  pricePerLitre : Option Float
  /-- Kilometres driven in a day. -/
  kmPerDay : Float
  /-- Allowance for a day. -/
  allowance : Float
  /-- Charges at borders. -/
  border : Float
  /-- Loading and unloading. -/
  loading : Float
  /-- Wear of tyres. -/
  tyre : Float
  /-- Reward for the driver. -/
  incentive : Float
  /-- Anything else. -/
  additional : Float

/-- The coordinates of a field as a position. -/
def checkCoordinate (read : Except CoordinateFlaw RawCoordinate) : Check Point :=
  fun place input =>
    match read with
    | .error flaw => reject (.rule flaw.message) place input
    | .ok raw =>
      (fun latitude longitude => (⟨longitude, latitude⟩ : Point)) <$>
        checkDegrees 90 (place ++ ["latitude"]) raw.latitude <*>
        checkDegrees 180 (place ++ ["longitude"]) raw.longitude

/-- The position in a field that may be missing or null. -/
def coordinateField (key : String) (fields : Fields) :
    Except Fault (Checked (Option Point)) :=
  match fields.get key with
  | .null => .ok (.fine none)
  | value => do return (checkCoordinate (← readCoordinate value) [key] value).map some

namespace Request

/-- The rule about the ends of a journey. -/
def endsRule : String := "Provide exactly one of start/destination or start_coord/dest_coord"

/-- Whether both ends are given as texts. -/
def hasNames (request : Request) : Bool :=
  request.start.isSome && request.destination.isSome

/-- Whether both ends are given as coordinates. -/
def usesCoordinates (request : Request) : Bool :=
  request.startCoord.isSome && request.destCoord.isSome

/-- The fields of a request, given the positions in it. -/
def ofFields (fields : Fields) (startCoord destCoord : Checked (Option Point)) :
    Checked Request :=
  mk <$> optional (checkText 1 300) "start" fields
    <*> optional (checkText 1 300) "destination" fields
    <*> startCoord
    <*> destCoord
    <*> required (checkText 1 50) "vehicle_type" fields
    <*> required checkFinite "mileage" fields
    <*> defaulted (checkText 1 30) "petrol" "fuel_type" fields
    <*> optional checkPositive "fuel_tank_capacity" fields
    <*> optional checkFinite "fuel_cost" fields
    <*> optional checkFinite "fuel_price" fields
    <*> optional checkFinite "fuel_rate" fields
    <*> optional checkFinite "price_per_litre" fields
    <*> required checkFinite "kilometers_per_day" fields
    <*> defaulted checkAmount 0 "da_amount_per_day" fields
    <*> defaulted checkAmount 0 "border_expense" fields
    <*> defaulted checkAmount 0 "loading_unloading" fields
    <*> defaulted checkAmount 0 "tyre" fields
    <*> defaulted checkAmount 0 "incentive" fields
    <*> defaulted checkAmount 0 "additional_cost" fields

/-- The request in a document. -/
def read : Json → Except Fault (Checked Request)
  | .object fields => do
    let startCoord ← coordinateField "start_coord" fields
    let destCoord ← coordinateField "dest_coord" fields
    return (ofFields fields startCoord destCoord).andThen fun request =>
      if request.hasNames == request.usesCoordinates then
        reject (.rule endsRule) [] (.object fields)
      else .fine request
  | payload => .ok (reject .notObject [] payload)

/-- The price of a litre that the caller names: the first one that is positive. -/
def perLitre (request : Request) : Option Float :=
  [request.fuelPrice, request.fuelRate, request.pricePerLitre].findSome? fun price =>
    price.filter fun x => 0 < x

/-- Expenses that the caller names. -/
def extras (request : Request) : Extras :=
  ⟨request.border, request.loading, request.tyre, request.incentive, request.additional⟩

end Request

/-- A position as a label. -/
def label (p : Point) : String :=
  Decimal.Style.plain.write p.latitude ++ "," ++ Decimal.Style.plain.write p.longitude

end JourneyCost.Trip
