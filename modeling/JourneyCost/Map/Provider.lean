import JourneyCost.Fault
import JourneyCost.Text.Blank
import JourneyCost.Text.LowerCase

/-!
# Map services

There are two map services, chosen by their names.  They differ in how they are asked, in how they
answer, and in the precision of their polylines.
-/

namespace JourneyCost.Map

/-- A map service. -/
inductive Provider where
  /-- Ola Maps. -/
  | ola
  /-- OpenRouteService. -/
  | ors
deriving DecidableEq, Repr

namespace Provider

/-- The name by which a service is chosen. -/
def name : Provider → String
  | ola => "ola"
  | ors => "ors"

/-- The precisions of encoded polylines, the usual one first. -/
def precisions : Provider → List Int
  | ola => [6, 5]
  | ors => [5, 6]

/-- The service with a name, in any case and with spacing around it. -/
def ofName (text : String) : Except Fault Provider :=
  let common := Text.lower (Text.trim text)
  if common == ola.name then .ok ola
  else if common == ors.name then .ok ors
  else .error (.unknownProvider common)

end Provider

end JourneyCost.Map
