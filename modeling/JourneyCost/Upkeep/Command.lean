import JourneyCost.Upkeep.BuildPrices
import JourneyCost.Upkeep.LocateCities

/-!
# Maintenance commands

There are two commands for the upkeep of the fuel data set, known by their names.
-/

namespace JourneyCost.Upkeep

/-- A command. -/
inductive Command where
  /-- Builds the fuel data set from a price table. -/
  | buildPrices
  /-- Locates the cities of the fuel data set. -/
  | locateCities
deriving DecidableEq, Repr

/-- The command with a name. -/
def Command.ofName? (name : String) : Option Command :=
  if name == "build_fuel_prices" then some .buildPrices
  else if name == "geocode_fuel_cities" then some .locateCities
  else none

/-- Runs a command with its arguments and gives what it prints. -/
def Command.run (settings : Settings) (line : List String) : Command → Work Shop String
  | buildPrices => Upkeep.buildPrices settings line
  | locateCities => Upkeep.locateCities settings line

/-- Runs the command with a name. -/
def runNamed (settings : Settings) (name : String) (line : List String) : Work Shop String :=
  match Command.ofName? name with
  | some command => command.run settings line
  | none => Work.fail (.commandRefused ("Unknown command: " ++ Arguments.quoted name))

end JourneyCost.Upkeep
