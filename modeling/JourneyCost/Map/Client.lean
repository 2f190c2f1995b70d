import JourneyCost.Decimal.Writing
import JourneyCost.Geo.Point
import JourneyCost.Map.Provider
import JourneyCost.Net.Call
import JourneyCost.Settings

/-!
# Map clients

A client keeps the address and the key of a map service as they were when it was made, and knows
the calls that ask the service for places, routes and roads.
-/

namespace JourneyCost.Map

open Net

/-- A client of a map service. -/
structure Client where
  /-- The service. -/
  provider : Provider
  /-- The address of the service. -/
  address : String
  /-- The key of the caller. -/
  key : String
  /-- The radius within which roads are looked for. -/
  radius : Json
  /-- Time limits. -/
  limits : TimeLimits

/-- A text without slashes at its end. -/
def dropSlashes (s : String) : String :=
  String.ofList (s.toList.reverse.dropWhile (· == '/')).reverse

namespace Client

/-- The client that the settings ask for, or that of a service named instead. -/
def create (settings : Settings) (named : Option String) : Except Fault Client := do
  let wanted := (named.filter (· != "")).getD settings.provider
  match ← Provider.ofName wanted with
  | .ola => return ⟨.ola, dropSlashes settings.olaAddress, settings.olaKey, .null, settings.limits⟩
  | .ors =>
    return ⟨.ors, dropSlashes settings.orsAddress, settings.orsKey, settings.orsRadius,
      settings.limits⟩

/-- A position as Ola Maps expects it. -/
def latLng (p : Point) : String :=
  Decimal.fixedText 6 p.latitude ++ "," ++ Decimal.fixedText 6 p.longitude

/-- A position as OpenRouteService expects it. -/
def lonLat (p : Point) : Json := .list [.float p.longitude, .float p.latitude]

/-- The headers of calls to OpenRouteService. -/
def orsHeaders (client : Client) : Option (List Header) :=
  some [.authorization client.key, .accept]

/-- The call that looks up a place. -/
def geocodeCall (client : Client) (query : String) : Call :=
  match client.provider with
  | .ola =>
    { purpose := .geocode, method := .get, url := client.address ++ "/places/v1/geocode"
      params := some [("input", .text query), ("size", .int 1), ("api_key", .text client.key)]
      timeout := client.limits.geocode }
  | .ors =>
    { purpose := .geocode, method := .get, url := client.address ++ "/geocode/search"
      params := some [("text", .text query), ("size", .int 1)]
      headers := client.orsHeaders
      timeout := client.limits.geocode }

/-- The call that asks for a route. -/
def directionsCall (client : Client) (origin destination : Point) : Call :=
  match client.provider with
  | .ola =>
    { purpose := .directions, method := .post, url := client.address ++ "/routing/v1/directions"
      params := some [("origin", .text (latLng origin)),
        ("destination", .text (latLng destination)), ("overview", .text "full"),
        ("steps", .text "false"), ("api_key", .text client.key)]
      headers := some [.callId, .accept]
      timeout := client.limits.directions }
  | .ors =>
    { purpose := .directions, method := .post
      url := client.address ++ "/v2/directions/driving-car"
      body := some (.object [("coordinates", .list [lonLat origin, lonLat destination])])
      headers := client.orsHeaders
      timeout := client.limits.directions }

/-- The call that moves two positions to the nearest road. -/
def snapCall (client : Client) (origin destination : Point) : Call :=
  match client.provider with
  | .ola =>
    { purpose := .snap, method := .get, url := client.address ++ "/routing/v1/snapToRoad"
      params := some [("points", .text (latLng origin ++ "|" ++ latLng destination)),
        ("api_key", .text client.key)]
      timeout := client.limits.snap }
  | .ors =>
    { purpose := .snap, method := .post, url := client.address ++ "/v2/snap/driving-car/json"
      body := some (.object [("locations", .list [lonLat origin, lonLat destination]),
        ("radius", client.radius)])
      headers := client.orsHeaders
      timeout := client.limits.snap }

/-- The call that asks for the place at a position. -/
def reverseCall (client : Client) (p : Point) : Call :=
  match client.provider with
  | .ola =>
    { purpose := .reverse, method := .get
      url := client.address ++ "/places/v1/reverse-geocode"
      params := some [("location", .text (latLng p)), ("size", .int 1),
        ("api_key", .text client.key)]
      timeout := client.limits.reverse }
  | .ors =>
    { purpose := .reverse, method := .get, url := client.address ++ "/geocode/reverse"
      params := some [("point.lat", .float p.latitude), ("point.lon", .float p.longitude),
        ("size", .int 1)]
      headers := client.orsHeaders
      timeout := client.limits.reverse }

end Client

end JourneyCost.Map
