import JourneyCost.Text.Blank
import JourneyCost.Text.LowerCase

/-!
# Vehicle classes

Tolls are charged by class of vehicle.  A class is found from the free text in which a vehicle is
described; a description that is not known counts as a car.
-/

namespace JourneyCost

/-- A class of vehicles for which tolls are listed. -/
inductive VehicleClass where
  /-- Cars, vans and jeeps. -/
  | car
  /-- Light commercial vehicles. -/
  | lightCommercial
  /-- Buses and trucks. -/
  | bus
  /-- Vehicles with more than two axles. -/
  | multiAxle
  /-- Vehicles with four to six axles. -/
  | fourToSixAxle
  /-- Vehicles with seven or more axles. -/
  | sevenOrMoreAxle
  /-- Heavy construction machinery and earth moving equipment. -/
  | heavyMachinery
deriving DecidableEq, Repr

namespace VehicleClass

/-- The name under which a class is listed. -/
def key : VehicleClass → String
  | car => "car"
  | lightCommercial => "lcv"
  | bus => "bus"
  | multiAxle => "multi_axle"
  | fourToSixAxle => "4to6_axle"
  | sevenOrMoreAxle => "7_or_more_axle"
  | heavyMachinery => "hcm_eme"

/-- Descriptions in small letters, with their classes. -/
def descriptions : List (String × VehicleClass) :=
  [("car", car), ("van", car), ("jeep", car), ("lcv", lightCommercial), ("bus", bus),
   ("truck", bus), ("multi axle", multiAxle), ("multi_axle", multiAxle),
   ("4 to 6 axle", fourToSixAxle), ("4to6_axle", fourToSixAxle),
   ("7 or more axle", sevenOrMoreAxle), ("7_or_more_axle", sevenOrMoreAxle),
   ("hcm eme", heavyMachinery), ("hcm_eme", heavyMachinery)]

/-- The class that a description names, in any case and with spacing around it. -/
def ofText (description : String) : VehicleClass :=
  (descriptions.lookup (Text.lower (Text.trim description))).getD car

end VehicleClass

end JourneyCost
