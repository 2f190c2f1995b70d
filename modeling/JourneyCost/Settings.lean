import JourneyCost.Data.Bundled
import JourneyCost.Json.Value

/-!
# Settings

What an installation can choose: the map provider with its address, key and time limits, the data
sets, and the numbers that estimates fall back on.
-/

namespace JourneyCost

/-- Time limits in seconds, in the number form in which they are handed on. -/
structure TimeLimits where
  /-- For finding a place. -/
  geocode : Json := .float 20
  /-- For directions. -/
  directions : Json := .float 30
  /-- For snapping to the road. -/
  snap : Json := .float 20
  /-- For naming a position. -/
  reverse : Json := .float 10

/-- The choices of an installation. -/
structure Settings where
  /-- The name of the map provider. -/
  provider : String := "ola"
  /-- The address of Ola Maps. -/
  olaAddress : String := "https://api.olamaps.io"
  /-- The key for Ola Maps. -/
  olaKey : String := ""
  /-- The address of OpenRouteService. -/
  orsAddress : String := "https://api.openrouteservice.org"
  /-- The key for OpenRouteService. -/
  orsKey : String := ""
  /-- The radius in metres within which OpenRouteService looks for a road. -/
  orsRadius : Json := .int 2000
  /-- Time limits for requests. -/
  limits : TimeLimits := {}
  /-- Seconds for which a found place is kept. -/
  placeRetention : Float := 86400
  /-- The toll data set. -/
  tollPath : String := Data.Bundled.tollPath
  /-- The fuel data set. -/
  fuelPath : String := Data.Bundled.fuelPath
  /-- Kilometres within which a plaza is on a route. -/
  tollThreshold : Float := 2
  /-- The region whose fuel prices are preferred. -/
  fuelRegion : String := "Delhi"
  /-- Price of a litre if there are no fuel prices, in the number form in which it is shown. -/
  fallbackFuelPrice : Json := .float 110
  /-- The kind of fuel whose prices are counted in a health report. -/
  fuelKind : String := "petrol"

end JourneyCost
