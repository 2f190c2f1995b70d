import JourneyCost.Decimal.Binary
import JourneyCost.Fault

/-!
# Expenses of a journey

A journey takes at least one day.  Its expenses are tolls, fuel, a daily allowance, and extras
that the caller names; sums are taken from left to right.
-/

namespace JourneyCost

/-- Expenses that the caller names. -/
structure Extras where
  /-- Charges at borders. -/
  border : Float
  /-- Loading and unloading. -/
  loading : Float
  /-- Wear of tyres. -/
  tyre : Float
  /-- Reward for the driver. -/
  incentive : Float
  /-- Anything else. -/
  additional : Float

/-- All expenses of a journey. -/
structure Expenses where
  /-- Days on the road. -/
  days : Int
  /-- The daily allowance over all days. -/
  allowance : Float
  /-- Extras with the allowance. -/
  extras : Float
  /-- Everything. -/
  total : Float

namespace Expenses

/-- The fault of a missing or unusable daily distance. -/
def dailyDistanceFault : Fault :=
  .invalidInput "Missing or invalid required field: kilometers_per_day (must be > 0)"

/-- The least integer that is not below a number. -/
def ceiling (x : Float) : Except Fault Int :=
  match Decimal.ceiling? x with
  | some n => .ok n
  | none => .error (if x.isNaN then .malformed else .overflow)

/-- Days for a distance, at least one. -/
def journeyDays (distanceKm : Float) : Option Float → Except Fault Int
  | none => .error dailyDistanceFault
  | some daily =>
    if daily ≤ 0 then .error dailyDistanceFault
    else (ceiling (distanceKm / daily)).map (max 1)

/-- The daily allowance over a number of days; a zero in it loses its sign. -/
def allowanceFor (daily : Float) (days : Int) : Except Fault Float :=
  let rate := if daily == 0 then 0 else daily
  (Decimal.floatOfInt? days).elim (.error .overflow) fun count => .ok (rate * count)

/-- The sum of all expenses. -/
def aggregate (tolls fuel distanceKm : Float) (kmPerDay : Option Float) (daily : Float)
    (extras : Extras) : Except Fault Expenses := do
  let days ← journeyDays distanceKm kmPerDay
  let allowance ← allowanceFor daily days
  let sum :=
    extras.border + extras.loading + extras.tyre + extras.incentive + allowance +
      extras.additional
  return ⟨days, allowance, sum, tolls + fuel + sum⟩

end Expenses

end JourneyCost
