import JourneyCost.Data.Library
import JourneyCost.Route.Resolution
import JourneyCost.Toll.Vehicle
import JourneyCost.Trip.Report

/-!
# Planners

A planner keeps the choices that were in force when it was made: the map client, the toll
threshold, and where fuel prices come from.  It turns requests into estimates.  A fault that is
not in the vocabulary of trip estimation becomes one general fault of that vocabulary.
-/

namespace JourneyCost.Trip

open Net Map Data

/-- What a planner keeps. -/
structure Planner where
  /-- The map client. -/
  client : Client
  /-- Kilometres within which a plaza is on a route. -/
  threshold : Float
  /-- Where fuel prices come from. -/
  pricing : Fuel.Pricing

/-- The planner for the settings in force. -/
def Planner.create (settings : Settings) : Except Fault Planner := do
  return ⟨← Client.create settings none, settings.tollThreshold,
    ⟨settings.fuelRegion, settings.fallbackFuelPrice⟩⟩

/-- The data sets as they can be reached during an estimate. -/
structure Sources where
  /-- All files. -/
  files : Files
  /-- The path of the toll data set. -/
  tollPath : String
  /-- The path of the fuel data set. -/
  fuelPath : String

/-- The state that an estimate works on. -/
structure Desk where
  /-- The wire to the map service. -/
  wire : Wire
  /-- The data sets that were read. -/
  library : Library

namespace Desk

/-- Work on the wire. -/
def onWire {α : Type} (work : Work Wire α) : Work Desk α :=
  Work.onPart wire (fun desk wire => { desk with wire := wire }) work

/-- Work on the library. -/
def onLibrary {α : Type} (work : Work Library α) : Work Desk α :=
  Work.onPart library (fun desk library => { desk with library := library }) work

end Desk

/-- Faults of the figures of a request. -/
def checkFigures (request : Request) : Except Fault Unit :=
  if request.mileage ≤ 0 then .error .invalidMileage
  else if request.kmPerDay ≤ 0 then .error Expenses.dailyDistanceFault
  else .ok ()

/-- The ends of a journey with their labels. -/
def ends (request : Request) : Except Fault ((Endpoint × String) × (Endpoint × String)) :=
  match request.startCoord, request.destCoord, request.start, request.destination with
  | some p, some q, _, _ => .ok ((.position p, label p), (.position q, label q))
  | _, _, some s, some t => .ok ((.named s, s), (.named t, t))
  | _, _, _, _ => .error .estimateFailed

/-- The tolls on a route. -/
def tollsOn (planner : Planner) (sources : Sources) (request : Request) (route : Route) :
    Work Desk Toll.Bill := do
  let plazas ← Desk.onLibrary (Library.loadPlazas sources.files sources.tollPath)
  Work.ofExcept (Toll.bill route.points planner.threshold
    (VehicleClass.ofText request.vehicle).key plazas)

/-- The fuel for a route. -/
def fuelFor (planner : Planner) (sources : Sources) (request : Request) (route : Route) :
    Work Desk Fuel.Estimate :=
  Fuel.estimate planner.pricing ⟨request.fuelCost, request.perLitre⟩
    (Desk.onLibrary (Library.loadPrices sources.files sources.fuelPath request.fuelKind))
    route.distanceKm (some request.mileage)

/-- The parts of an estimate in their order: route, tolls, fuel, and the sum. -/
def compute (planner : Planner) (sources : Sources) (request : Request) :
    Work Desk Estimate := do
  Work.ofExcept (checkFigures request)
  let (origin, destination) ← Work.ofExcept (ends request)
  let route ← Desk.onWire (Route.resolve planner.client origin.1 destination.1)
  let tolls ← tollsOn planner sources request route
  let fuel ← fuelFor planner sources request route
  let expenses ← Work.ofExcept (Expenses.aggregate tolls.total fuel.total route.distanceKm
    (some request.kmPerDay) request.allowance request.extras)
  return ⟨request, origin.2, destination.2, route, tolls, fuel, expenses⟩

/-- A fault as the vocabulary of trip estimation has it. -/
def asTripFault (fault : Fault) : Fault := if fault.isTripFault then fault else .estimateFailed

/-- The estimate for a request. -/
def Planner.estimate (planner : Planner) (sources : Sources) (request : Request) :
    Work Desk Estimate :=
  tryCatch (compute planner sources request) fun fault => Work.fail (asTripFault fault)

end JourneyCost.Trip
