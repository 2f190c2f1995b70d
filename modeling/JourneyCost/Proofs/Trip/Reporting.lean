import JourneyCost.Proofs.Trip.Computing

/-!
# Reports in which some members differ

Two documents agree except at some paths when every path apart from these leads to the same in
both.  Reports agree except in what their estimates do not have in common.
-/

namespace JourneyCost

/-- Two documents agree except at some paths. -/
def Json.AgreeExcept (paths : List (List String)) (first second : Json) : Prop :=
  ∀ path, (∀ exception ∈ paths, Json.Apart exception path) →
    first.follow? path = second.follow? path

/-- Documents agree except at paths at which they become equal when something is put there. -/
theorem Json.agreeExcept_of_graftAll? {writes : List (List String × Json)} {first second : Json}
    (same : first.graftAll? writes = second.graftAll? writes)
    (fits : (first.graftAll? writes).isSome) :
    AgreeExcept (writes.map Prod.fst) first second := by
  intro path apart
  obtain ⟨after, one⟩ := Option.isSome_iff_exists.mp fits
  have away : ∀ write ∈ writes, Apart write.1 path := by
    intro write member
    exact apart write.1 (List.mem_map_of_mem member)
  have other := same.symm.trans one
  rw [← follow?_graftAll?_apart one away, ← follow?_graftAll?_apart other away]

namespace Trip

open Net Data

/-- Paths to nulls. -/
def nulls (paths : List (List String)) : List (List String × Json) :=
  paths.map fun path => (path, .null)

/-- What a change of the vehicle can change in a report. -/
def vehiclePaths : List (List String) :=
  [["trip_summary", "vehicle_type"], ["tolls"], ["final_cost", "toll"],
    ["final_cost", "total_trip_cost"]]

/-- What a change of the costs of fuel can change in a report. -/
def fuelPaths : List (List String) :=
  [["trip_summary", "mileage"], ["fuel"], ["final_cost", "fuel"],
    ["final_cost", "total_trip_cost"]]

/-- What a change of the extras can change in a report. -/
def extrasPaths : List (List String) :=
  [["trip_summary", "journey_time_days"], ["extras"], ["final_cost", "extras"],
    ["final_cost", "total_trip_cost"]]

/-- Two estimates have the ends and the route in common, and the tank. -/
structure SameJourney (e e' : Estimate) : Prop where
  /-- The label of the place of departure. -/
  origin : e'.origin = e.origin
  /-- The label of the destination. -/
  destination : e'.destination = e.destination
  /-- The route. -/
  route : e'.route = e.route
  /-- Litres in a full tank. -/
  tankCapacity : e'.request.tankCapacity = e.request.tankCapacity

variable {e e' : Estimate}

theorem extrasPart_eq (named : e'.request.extras = e.request.extras)
    (allowance : e'.expenses.allowance = e.expenses.allowance)
    (sum : e'.expenses.extras = e.expenses.extras) : e'.extrasPart = e.extrasPart := by
  obtain ⟨border, loading, tyre, incentive, additional⟩ := Extras.mk.inj named
  rw [Estimate.extrasPart, Estimate.extrasPart, border, loading, tyre, incentive, additional,
    allowance, sum]

theorem fuelPart_eq (fuel : e'.fuel = e.fuel) : e'.fuelPart = e.fuelPart := by
  rw [Estimate.fuelPart, Estimate.fuelPart, fuel]

theorem tollPart_eq (tolls : e'.tolls = e.tolls) : e'.tollPart = e.tollPart := by
  rw [Estimate.tollPart, Estimate.tollPart, tolls]

/-- Reports of estimates that have everything but the vehicle and the tolls in common. -/
theorem agreeExcept_vehicle (journey : SameJourney e e')
    (mileage : e'.request.mileage = e.request.mileage) (fuel : e'.fuel = e.fuel)
    (named : e'.request.extras = e.request.extras)
    (days : e'.expenses.days = e.expenses.days)
    (allowance : e'.expenses.allowance = e.expenses.allowance)
    (sum : e'.expenses.extras = e.expenses.extras) :
    Json.AgreeExcept vehiclePaths e.report e'.report := by
  have fuelPart := fuelPart_eq fuel
  have extrasPart := extrasPart_eq named allowance sum
  have same : e.report.graftAll? (nulls vehiclePaths) =
      e'.report.graftAll? (nulls vehiclePaths) := by
    simp [Estimate.report, Estimate.summary, Estimate.finalPart, journey.origin,
      journey.destination, journey.route, journey.tankCapacity, mileage, fuelPart, extrasPart,
      days, fuel, sum, nulls, vehiclePaths, Json.graftAll?, Json.graft?, Fields.put,
      Fields.find?_cons]
  exact Json.agreeExcept_of_graftAll? same rfl

/-- Reports of estimates that have everything but the fuel in common. -/
theorem agreeExcept_fuel (journey : SameJourney e e')
    (vehicle : e'.request.vehicle = e.request.vehicle) (tolls : e'.tolls = e.tolls)
    (named : e'.request.extras = e.request.extras)
    (days : e'.expenses.days = e.expenses.days)
    (allowance : e'.expenses.allowance = e.expenses.allowance)
    (sum : e'.expenses.extras = e.expenses.extras) :
    Json.AgreeExcept fuelPaths e.report e'.report := by
  have tollPart := tollPart_eq tolls
  have extrasPart := extrasPart_eq named allowance sum
  have same : e.report.graftAll? (nulls fuelPaths) = e'.report.graftAll? (nulls fuelPaths) := by
    simp [Estimate.report, Estimate.summary, Estimate.finalPart, journey.origin,
      journey.destination, journey.route, journey.tankCapacity, vehicle, tollPart, extrasPart,
      days, tolls, sum, nulls, fuelPaths, Json.graftAll?, Json.graft?, Fields.put,
      Fields.find?_cons]
  exact Json.agreeExcept_of_graftAll? same rfl

/-- Reports of estimates that have everything but the days and the extras in common. -/
theorem agreeExcept_extras (journey : SameJourney e e')
    (vehicle : e'.request.vehicle = e.request.vehicle)
    (mileage : e'.request.mileage = e.request.mileage) (tolls : e'.tolls = e.tolls)
    (fuel : e'.fuel = e.fuel) : Json.AgreeExcept extrasPaths e.report e'.report := by
  have tollPart := tollPart_eq tolls
  have fuelPart := fuelPart_eq fuel
  have same : e.report.graftAll? (nulls extrasPaths) =
      e'.report.graftAll? (nulls extrasPaths) := by
    simp [Estimate.report, Estimate.summary, Estimate.finalPart, journey.origin,
      journey.destination, journey.route, journey.tankCapacity, vehicle, mileage, tollPart,
      fuelPart, tolls, fuel, nulls, extrasPaths, Json.graftAll?, Json.graft?, Fields.put,
      Fields.find?_cons]
  exact Json.agreeExcept_of_graftAll? same rfl

section

variable {planner : Planner} {sources : Sources} {desk after after' : Desk} {r s : Request}
  {origin destination : Endpoint} {wire wire' : Wire} {library library' : Library}
  {p q : Fields}
  (first : Computed planner sources desk r origin destination wire library e after)
  (second : Computed planner sources desk s origin destination wire' library' e' after')
  (reads : r.IsReadFrom p) (readsToo : s.IsReadFrom q)

include first second reads readsToo

theorem Computed.sameJourney
    (tank : p.find? "fuel_tank_capacity" = q.find? "fuel_tank_capacity") : SameJourney e e' where
  origin := second.startLabel.trans first.startLabel.symm
  destination := second.stopLabel.trans first.stopLabel.symm
  route := (first.sameRoute second).1
  tankCapacity := by
    rw [first.asked, second.asked]
    exact (eq_of_defaulted tank reads.tankCapacity readsToo.tankCapacity).symm

theorem Computed.agreeExcept_vehicle (differ : DifferOnlyIn ["vehicle_type"] p q) :
    Json.AgreeExcept vehiclePaths e.report e'.report := by
  have journey := first.sameJourney second reads readsToo (differ _ (by decide))
  have fuel := reads.sameFuel readsToo (differ.agree (by decide))
  have extras := reads.sameExtras readsToo (differ.agree (by decide))
  obtain ⟨days, allowance, sum⟩ := first.sameExpenses second extras
  refine Trip.agreeExcept_vehicle journey ?_ (first.sameFuel second fuel) ?_ days allowance sum
  · rw [first.asked, second.asked, fuel.mileage]
  · rw [first.asked, second.asked, extras.extras]

theorem Computed.agreeExcept_fuel (differ : DifferOnlyIn fuelKeys p q) :
    Json.AgreeExcept fuelPaths e.report e'.report := by
  have journey := first.sameJourney second reads readsToo (differ _ (by decide))
  have vehicle := eq_of_required (differ _ (by decide)) reads.vehicle readsToo.vehicle
  have extras := reads.sameExtras readsToo (differ.agree (by decide))
  obtain ⟨days, allowance, sum⟩ := first.sameExpenses second extras
  refine Trip.agreeExcept_fuel journey ?_ (first.sameTolls second vehicle) ?_ days allowance sum
  · rw [first.asked, second.asked, vehicle]
  · rw [first.asked, second.asked, extras.extras]

theorem Computed.agreeExcept_extras (differ : DifferOnlyIn extrasKeys p q) :
    Json.AgreeExcept extrasPaths e.report e'.report := by
  have journey := first.sameJourney second reads readsToo (differ _ (by decide))
  have vehicle := eq_of_required (differ _ (by decide)) reads.vehicle readsToo.vehicle
  have fuel := reads.sameFuel readsToo (differ.agree (by decide))
  refine Trip.agreeExcept_extras journey ?_ ?_ (first.sameTolls second vehicle)
    (first.sameFuel second fuel)
  · rw [first.asked, second.asked, vehicle]
  · rw [first.asked, second.asked, fuel.mileage]

end

end Trip

end JourneyCost
