import JourneyCost.Upkeep.Merge
import JourneyCost.Upkeep.Shop

/-!
# Locating the cities of the fuel data set

The command asks the map service for the positions of cities that have none, up to a limit, with
a pause after each request.  Positions that were found are written into the data set.
-/

namespace JourneyCost.Upkeep

open Data Map Net

/-- The options of the command. -/
def locateOptions : List CommandOption :=
  [⟨["--path"], .text, false⟩, ⟨["--limit"], .int, false⟩, ⟨["--sleep-seconds"], .float, false⟩,
   ⟨["--provider"], .text, false⟩]

/-- A city in a data set. -/
structure CityKey where
  /-- The state. -/
  state : String
  /-- The city. -/
  city : String
deriving DecidableEq

/-- Whether a city has prices but no position. -/
def isPending : Json → Bool
  | .object values => !(Fields.get values "location").isTruthy
  | _ => false

/-- The cities of a state that have no position. -/
def pendingIn (state : String × Json) : Except Fault (List CityKey) :=
  match state.2 with
  | .object cities =>
    .ok ((cities.filter fun city => isPending city.2).map fun city => ⟨state.1, city.1⟩)
  | _ => .error .notAnObject

/-- All cities that have no position. -/
def pendingCities : Json → Except Fault (List CityKey)
  | .object states => do return (← states.mapM pendingIn).flatten
  | _ => .error .notAnObject

/-- Changes a member of an object. -/
def changeMember (key : String) (f : Json → Json) : Json → Json
  | .object fields => .object (fields.map fun field =>
      if field.1 == key then (field.1, f field.2) else field)
  | value => value

/-- Sets a member of an object. -/
def putMember (key : String) (value : Json) : Json → Json
  | .object fields => .object (Fields.put fields key value)
  | other => other

/-- A data set with the position of a city. -/
def setPosition (document : Json) (key : CityKey) (place : Point) : Json :=
  changeMember key.state
    (changeMember key.city (putMember "location" (positionFields place.latitude place.longitude)))
    document

/-- What is asked of the map service. -/
def cityQuery (key : CityKey) : String := key.city ++ ", " ++ key.state ++ ", India"

/-- Faults after which the next city is tried. -/
def isProviderFault : Fault → Bool
  | .providerFailed .. => true
  | _ => false

/-- The progress of the command. -/
structure Located where
  /-- The data set so far. -/
  document : Json
  /-- Cities found. -/
  found : Nat
  /-- Cities not found. -/
  failed : Nat

/-- The progress after a city. -/
def Located.add (progress : Located) (key : CityKey) : Option Point → Located
  | some place =>
    { progress with
      document := setPosition progress.document key place
      found := progress.found + 1 }
  | none => { progress with failed := progress.failed + 1 }

/-- Asks for one city after the other. -/
def locateAll (client : Client) (seconds : Float) (progress : Located) :
    List CityKey → Work Shop Located
  | [] => pure progress
  | key :: more => do
    let place ← Work.onPart Shop.desk (fun shop desk => { shop with desk := desk })
      (Trip.Desk.onWire (Work.recover isProviderFault none (client.geocode (cityQuery key))))
    Shop.pause seconds
    locateAll client seconds (progress.add key place) more

/-- The most cities that are asked for. -/
def cityLimit (arguments : Arguments) : Int :=
  max 1 (((arguments.get? "--limit").bind Decimal.readInt?).getD 50)

/-- The pause after a request; a negative one is none. -/
def pauseLength (arguments : Arguments) : Float :=
  let wanted := ((arguments.get? "--sleep-seconds").bind Decimal.readFloat?).getD 0.5
  if 0 < wanted then wanted else 0

/-- The data set to complete. -/
def datasetToLocate (files : Files) (path : String) : Except Fault Json := do
  if ← files.has (normalPath path) then readDocument files (normalPath path)
  else throw (.commandRefused ("Fuel price dataset does not exist: " ++ normalPath path))

/-- What the command reports. -/
def locateReport (progress : Located) (limit : Int) : String :=
  "Geocode run complete: " ++ toString progress.found ++ " succeeded, " ++
    toString progress.failed ++ " failed (limit=" ++ toString limit ++ ")"

/-- Locates the cities of the fuel data set. -/
def locateCities (settings : Settings) (line : List String) : Work Shop String := do
  let arguments ← Work.ofExcept (Arguments.read locateOptions line)
  let path := (arguments.get? "--path").getD settings.fuelPath
  let document ← Work.ofExcept (datasetToLocate (← Work.look).files path)
  let limit := cityLimit arguments
  let pending := (← Work.ofExcept (pendingCities document)).take limit.toNat
  if pending.isEmpty then return printed arguments .warning "No cities to geocode"
  let client ← Work.ofExcept (Client.create settings (arguments.get? "--provider"))
  let progress ← locateAll client (pauseLength arguments) ⟨document, 0, 0⟩ pending
  Shop.save path progress.document
  return printed arguments .good (locateReport progress limit)

end JourneyCost.Upkeep
