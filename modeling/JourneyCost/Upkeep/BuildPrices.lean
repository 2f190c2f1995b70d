import JourneyCost.Data.Parts
import JourneyCost.Upkeep.Merge
import JourneyCost.Upkeep.Shop

/-!
# Building the fuel data set

The command reads a price table and merges it into the fuel data set, or puts a new data set in
its place.
-/

namespace JourneyCost.Upkeep

open Data

/-- The options of the command. -/
def buildOptions : List CommandOption :=
  [⟨["--csv-path"], .text, true⟩, ⟨["--output"], .text, false⟩, ⟨["--replace"], .flag, false⟩]

/-- The rows of the price table in a file. -/
def tableRows (files : Files) (path : String) : Except Fault (List PriceRow) := do
  if !(← files.has (normalPath path)) then
    throw (.commandRefused ("CSV file does not exist: " ++ normalPath path))
  readPrices (← Table.Sheet.ofParts (← files.tableParts (normalPath path)))

/-- The data set that is merged into. -/
def baseDocument (files : Files) (output : String) (replaces : Bool) : Except Fault Json := do
  if !(← files.has (normalPath output)) || replaces then return .object []
  match readDocument files (normalPath output) with
  | .ok document => return document
  | .error fault =>
    throw (if fault.isMalformed then
      .commandRefused ("Existing dataset is not valid JSON: " ++ normalPath output)
    else fault)

/-- The data set that the command writes, and what it did to get there. -/
def builtDataset (files : Files) (table output : String) (replaces : Bool) :
    Except Fault (List PriceRow × Merged) := do
  let rows := PriceRow.cheapest (← tableRows files table)
  let base ← baseDocument files output replaces
  return (rows, ← mergePrices base rows)

/-- What the command reports. -/
def buildReport (rows : List PriceRow) (merged : Merged) : String :=
  "Built fuel price dataset: " ++ toString rows.length ++ " rows normalized, " ++
    toString merged.added ++ " prices added, " ++ toString merged.updated ++ " updated"

/-- Builds the fuel data set. -/
def buildPrices (settings : Settings) (line : List String) : Work Shop String := do
  let arguments ← Work.ofExcept (Arguments.read buildOptions line)
  let output := (arguments.get? "--output").getD settings.fuelPath
  let (rows, merged) ← Work.ofExcept (builtDataset (← Work.look).files
    ((arguments.get? "--csv-path").getD "") output (arguments.has "--replace"))
  Shop.prepare output
  Shop.save output merged.document
  return printed arguments .good (buildReport rows merged)

end JourneyCost.Upkeep
