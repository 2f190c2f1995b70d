import JourneyCost.Decimal.Writing
import JourneyCost.Expense
import JourneyCost.Fuel.Estimate
import JourneyCost.Route.Directions
import JourneyCost.Toll.Bill
import JourneyCost.Trip.Request

/-!
# Reports

The report of an estimate is a document.  Amounts, lengths and durations are rounded to two
decimal places; positions and the figures of the vehicle are given as they are.
-/

namespace JourneyCost.Trip

/-- An estimate with all its parts. -/
structure Estimate where
  /-- What was asked. -/
  request : Request
  /-- The label of the place of departure. -/
  origin : String
  /-- The label of the destination. -/
  destination : String
  /-- The route. -/
  route : Route
  /-- The tolls. -/
  tolls : Toll.Bill
  /-- The fuel. -/
  fuel : Fuel.Estimate
  /-- The expenses. -/
  expenses : Expenses

/-- An amount rounded to two places. -/
def amount (x : Float) : Json := .float (Decimal.roundTo 2 x)

namespace Estimate

/-- The journey in a report. -/
def summary (e : Estimate) : Json :=
  .object ([("from", .text e.origin), ("to", .text e.destination),
    ("vehicle_type", .text e.request.vehicle), ("distance_km", amount e.route.distanceKm),
    ("duration_hours", amount e.route.durationHours), ("mileage", .float e.request.mileage),
    ("journey_time_days", .int e.expenses.days)] ++
    e.request.tankCapacity.toList.map fun litres => ("fuel_tank_capacity", .float litres))

/-- A toll in a report. -/
def tollDetail (charge : Toll.Charge) : Json :=
  .object [("name", .text charge.name), ("lat", .float charge.location.latitude),
    ("lon", .float charge.location.longitude), ("fee", amount charge.fee),
    ("distance_from_route_km", amount charge.distanceKm)]

/-- The tolls in a report. -/
def tollPart (e : Estimate) : Json :=
  .object [("total_toll_cost", amount e.tolls.total),
    ("toll_details", .list (e.tolls.charges.map tollDetail))]

/-- The fuel in a report. -/
def fuelPart (e : Estimate) : Json :=
  .object [("total_fuel_needed", amount e.fuel.litres), ("total_fuel_cost", amount e.fuel.total),
    ("refuels", .list [.object [("price_per_litre", amount e.fuel.rate),
      ("cost", amount e.fuel.total), ("litres_needed", amount e.fuel.litres),
      ("source", .text e.fuel.source)]])]

/-- The extras in a report. -/
def extrasPart (e : Estimate) : Json :=
  .object [("border_expense", amount e.request.border),
    ("loading_unloading", amount e.request.loading), ("tyre", amount e.request.tyre),
    ("incentive", amount e.request.incentive), ("da_trip_amount", amount e.expenses.allowance),
    ("additional_cost", amount e.request.additional),
    ("total_extras", amount e.expenses.extras)]

/-- The sums in a report. -/
def finalPart (e : Estimate) : Json :=
  .object [("toll", amount e.tolls.total), ("fuel", amount e.fuel.total),
    ("extras", amount e.expenses.extras), ("total_trip_cost", amount e.expenses.total)]

/-- The report of an estimate. -/
def report (e : Estimate) : Json :=
  .object [("trip_summary", e.summary), ("tolls", e.tollPart), ("fuel", e.fuelPart),
    ("extras", e.extrasPart), ("final_cost", e.finalPart)]

end Estimate

end JourneyCost.Trip
