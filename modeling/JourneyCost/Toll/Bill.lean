import JourneyCost.Geo.Distance
import JourneyCost.Toll.Fee

/-!
# Tolls along a route

A plaza is on a route when its nearest vertex is no farther than a threshold.  The plazas are
visited in the order of the data set, and of those that share an identity only the first one on
the route counts.  A plaza that cannot be assessed is passed over.
-/

namespace JourneyCost.Toll

/-- A toll to pay. -/
structure Charge where
  /-- The name of the plaza. -/
  name : String
  /-- The position of the plaza. -/
  location : Point
  /-- The toll. -/
  fee : Float
  /-- Kilometres from the route. -/
  distanceKm : Float

/-- The tolls of a journey. -/
structure Bill where
  /-- The sum of all tolls. -/
  total : Float
  /-- The tolls in the order of the data set. -/
  charges : List Charge

/-- A bill in progress. -/
structure Tally extends Bill where
  /-- Identities of the plazas that were on the route so far. -/
  seen : List Json

/-- The bill before the first plaza. -/
def Tally.start : Tally := { total := 0, charges := [], seen := [] }

/-- Faults for which a plaza is passed over. -/
def isSkipped (fault : Fault) : Bool := fault.isUnreadable || fault == .notAnObject

/-- The position and the distance of a plaza that is on the route. -/
def onRoute? (route : List Point) (threshold : Float) (plaza : Plaza) :
    Except Fault (Option (Point × Float)) :=
  match plaza.location with
  | none => .ok none
  | some place => do
    let distance ← Geo.distanceToRoute place route
    return if threshold < distance then none else some (place, distance)

/-- The bill after a plaza on the route with an identity not seen before. -/
def Tally.addNew (tally : Tally) (plaza : Plaza) (category : String) (place : Point)
    (distance : Float) : Except Fault Tally := do
  let seen := plaza.identity :: tally.seen
  let fee ← plaza.fee category
  if fee ≤ 0 then return { tally with seen := seen }
  return {
    total := tally.total + fee
    charges := tally.charges ++ [⟨plaza.name, place, fee, distance⟩]
    seen := seen }

/-- The bill after a plaza. -/
def Tally.visit (route : List Point) (threshold : Float) (category : String) (tally : Tally)
    (plaza : Plaza) : Except Fault Tally :=
  recoverWhen isSkipped tally do
    match ← onRoute? route threshold plaza with
    | none => return tally
    | some (place, distance) =>
      if !isIdentity plaza.identity then throw .wrongKind
      if tally.seen.any (sameIdentity plaza.identity) then return tally
      tally.addNew plaza category place distance

/-- The tolls along a route. -/
def bill (route : List Point) (threshold : Float) (category : String) (plazas : List Plaza) :
    Except Fault Bill := do
  return (← plazas.foldlM (Tally.visit route threshold category) .start).toBill

end JourneyCost.Toll
