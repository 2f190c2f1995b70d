import JourneyCost.Geo.Position
import JourneyCost.Json.Encoding
import JourneyCost.Map.Client
import JourneyCost.Net.Wire

/-!
# Asking a map service

A failure of the service is a fault where the answer is needed to go on; where it only helps to
mend a route, the client goes on with nothing.  Places that were found are kept under the name of
the service and the name of the place in its common form.
-/

namespace JourneyCost.Map

open Net

/-- An answer to a request for directions. -/
structure Directions where
  /-- The status of the answer. -/
  status : Int
  /-- The text of the answer. -/
  text : String
deriving DecidableEq

/-- Whether directions were given. -/
def Directions.isOk (answer : Directions) : Bool := answer.status == 200

namespace Client

/-- The answer to a call: its status and its bytes. -/
def answerTo (client : Client) (call : Call) : Work Wire (Int × Bytes) := do
  match ← Wire.send call with
  | .answer status body => return (status, body)
  | .dropped kind =>
    Work.fail (.providerFailed (client.provider.name ++ " request failed: " ++ kind) none
      (client.provider.name ++ "_transport_error"))
  | .badAddress => Work.fail .malformedAddress

/-- The place that an answer to a look-up names. -/
def readPlace (client : Client) (status : Int) (body : Bytes) : Except Fault (Option Point) :=
  if status != 200 then
    .error (.providerFailed (client.provider.name ++ " geocoding request failed") (some status)
      ("geocode_http_" ++ toString status))
  else
    match Json.readBytes body with
    | .ok payload => Geo.firstFeature payload
    | .error fault =>
      .error (if fault.isMalformed then
        .providerFailed (client.provider.name ++ " geocoding response is not valid JSON")
          (some status) "geocode_parse_error"
      else fault)

/-- The key under which a found place is kept. -/
def placeKey (client : Client) (query : String) : PlaceKey :=
  ⟨client.provider.name, Text.lower (Text.trim query)⟩

/-- The place with a name that was not found before. -/
def lookUp (client : Client) (query : String) : Work Wire (Option Point) := do
  let (status, body) ← client.answerTo (client.geocodeCall query)
  match ← Work.ofExcept (client.readPlace status body) with
  | some place =>
    Wire.remember (client.placeKey query) place
    return some place
  | none => return none

/-- The place with a name. -/
def geocode (client : Client) (query : String) : Work Wire (Option Point) := do
  match (← Work.look).known? (client.placeKey query) with
  | some place => return some place
  | none => client.lookUp query

/-- Directions from one position to another. -/
def directions (client : Client) (origin destination : Point) : Work Wire Directions := do
  let (status, body) ← client.answerTo (client.directionsCall origin destination)
  return ⟨status, Text.ofBytesLossy body⟩

/-- Whether failed directions mean that a position is off the road. -/
def isUnroutable (provider : Provider) (answer : Directions) : Bool :=
  let noPoint := answer.text.contains "Could not find routable point"
  match provider with
  | .ola => answer.status == 404 || answer.text.contains "Route Not Found" || noPoint
  | .ors => answer.status == 404 && noPoint

/-- Faults of a service that the client goes on after. -/
def isForgiven : Fault → Bool
  | .providerFailed .. => true
  | fault => fault.isMalformed

/-- The positions that the answer to a snap offers, still as documents. -/
def snappedItems (provider : Provider) (payload : Json) : Except Fault Json :=
  match payload with
  | .object fields =>
    let key := match provider with
      | .ola => "snapped_points"
      | .ors => "locations"
    .ok ((Fields.get fields key).orElse (.list []))
  | _ => .error .notAnObject

/-- The first two numbers of a position that must have no more and no fewer. -/
def exactPair : Json → Except Fault (Json × Json)
  | .list (lon :: lat :: _) => .ok (lon, lat)
  | .list _ => .error .malformed
  | .text s =>
    match s.toList with
    | lon :: lat :: _ => .ok (.text lon.toString, .text lat.toString)
    | _ => .error .malformed
  | _ => .error .wrongKind

/-- The snapped position in an item. -/
def snappedPoint (provider : Provider) (item : Json) : Except Fault (Option Point) :=
  match item with
  | .object fields =>
    match provider with
    | .ola =>
      match Fields.get fields "location" with
      | .object location => recoverWhen Fault.isUnusable none do
        let lon ← (← (Json.object location).member "lng").toNumber
        let lat ← (← (Json.object location).member "lat").toNumber
        return some ⟨lon, lat⟩
      | _ => .ok none
    | .ors => recoverWhen Fault.isUnusable none do
        let (lon, lat) ← exactPair (← item.member "location")
        return some ⟨← lon.toNumber, ← lat.toNumber⟩
  | _ => .ok none

/-- The items of an answer to a snap; nothing if it cannot be used. -/
def readSnapped (client : Client) (status : Int) (body : Bytes) : Except Fault Json :=
  if status != 200 then .ok (.list [])
  else
    recoverWhen (fun fault => fault.isMalformed || fault == .notAnObject) (.list []) do
      snappedItems client.provider (← Json.readBytes body)

/-- Two positions moved to the nearest road; nothing if the service cannot. -/
def snap (client : Client) (origin destination : Point) : Work Wire (List Point) := do
  let items ← Work.recover isForgiven (.list []) do
    let (status, body) ← client.answerTo (client.snapCall origin destination)
    Work.ofExcept (client.readSnapped status body)
  let elements ← Work.ofExcept items.elements
  return (← Work.ofExcept (elements.mapM (snappedPoint client.provider))).filterMap id

/-- The place at a position; nothing if the service cannot tell. -/
def reverse (client : Client) (p : Point) : Work Wire (Option Point) :=
  Work.recover isForgiven none do
    let (status, body) ← client.answerTo (client.reverseCall p)
    if status != 200 then return none
    Work.ofExcept do Geo.firstFeature (← Json.readBytes body)

end Client

end JourneyCost.Map
