import JourneyCost.Toll.Plaza

/-!
# Tolls of a plaza

Data sets list tolls in several shapes.  Each shape offers a candidate, and the first candidate
that is a finite number is the toll; a plaza without one is free.
-/

namespace JourneyCost.Toll

/-- A candidate as a finite number, if it is one.  Truth values are no tolls. -/
def usableFee : Json → Except Fault (Option Float)
  | .int value =>
    (Decimal.floatOfInt? value).elim (.error .overflow) fun fee => .ok (some fee)
  | .float value => .ok (if value.isFinite then some value else none)
  | .text s =>
    .ok ((Decimal.readFloat? (Text.trim s)).filter fun fee => fee.isFinite)
  | _ => .ok none

/-- The first candidate that is usable, or zero. -/
def firstUsable : List Json → Except Fault Float
  | [] => .ok 0
  | candidate :: more => do
    match ← usableFee candidate with
    | some fee => return fee
    | none => firstUsable more

/-- Members of a fare table, in order of preference. -/
def fareKeys : List String := ["single", "singleFare", "fare", "amount"]

/-- The fares that the entry for a class offers if it is a table. -/
def faresOf : Json → List Json
  | .object fares => fareKeys.map (Fields.get fares)
  | _ => []

/-- All candidates for the toll of a class, in order of preference. -/
def candidates (plaza : Plaza) (category : String) : List Json :=
  let entry := plaza.fees.get category
  faresOf entry ++ [entry, plaza.record.get category]

/-- The toll of a plaza for a class of vehicles. -/
def Plaza.fee (plaza : Plaza) (category : String) : Except Fault Float :=
  firstUsable (candidates plaza category)

end JourneyCost.Toll
