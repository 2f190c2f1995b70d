import JourneyCost.Geo.Point
import JourneyCost.Geo.Position
import JourneyCost.Json.Reader
import JourneyCost.Polyline
import JourneyCost.Text.Blank

/-!
# Routes from directions

Of the routes of an answer the first one counts.  Its length and duration come from a summary or are
summed over its legs.  Its points come from the first geometry source that has any.
-/

namespace JourneyCost

/-- A drivable route. -/
structure Route where
  /-- Length in kilometres. -/
  distanceKm : Float
  /-- Duration in hours. -/
  durationHours : Float
  /-- Vertices in order of travel. -/
  points : List Point

namespace Route

/-- The route that stands for no route. -/
def empty : Route := ⟨0, 0, []⟩

/-- A quantity; what cannot be read counts as nothing. -/
def quantity : Json → Except Fault Float
  | .null => .ok 0
  | value => recoverWhen Fault.isUnreadable 0 value.toNumber

/-- The legs of a route that are objects. -/
def legs (route : Fields) : List Fields :=
  match route.get "legs" with
  | .list items => items.filterMap Json.fields?
  | _ => []

/-- Metres and seconds of a route. -/
def totals (route : Fields) : Except Fault (Float × Float) :=
  match route.get "summary" with
  | .object summary => do
    let metres ← quantity (Fields.get summary "distance")
    let seconds ← quantity (Fields.get summary "duration")
    return (metres, seconds)
  | _ =>
    (legs route).foldlM (fun (metres, seconds) leg => do
      let m ← quantity (leg.get "distance")
      let s ← quantity (leg.get "duration")
      return (metres + m, seconds + s)) (0, 0)

/-- The encoded text of a polyline, which may be wrapped in an object. -/
def encodedText : Json → String
  | .text s => Text.trim s
  | .object fields =>
    match Fields.get fields "points" with
    | .text s => Text.trim s
    | _ => ""
  | _ => ""

/-- Points of a geometry that is an encoded text. -/
def encodedGeometry (route : Fields) (precisions : List Int) : Except Fault (List Point) :=
  match route.get "geometry" with
  | .text s => Polyline.decodeFirst (Text.trim s) precisions
  | _ => .ok []

/-- The coordinates of a geometry, bare or in an object. -/
def coordinateList : Json → List Json
  | .list items => items
  | .object fields => (Fields.get fields "coordinates").items?.getD []
  | _ => []

/-- A coordinate pair, longitude first. -/
def vertex (pair : Json) : Except Fault Point := do
  let longitude ← (← pair.item 0).toNumber
  let latitude ← (← pair.item 1).toNumber
  return ⟨longitude, latitude⟩

/-- Faults that make a list of coordinates no geometry. -/
def spoilsGeometry (fault : Fault) : Bool := fault.isUnreadable || fault == .missingItem

/-- Points of a geometry that is a list of coordinates. -/
def coordinateGeometry (route : Fields) (_ : List Int) : Except Fault (List Point) :=
  recoverWhen spoilsGeometry [] ((coordinateList (route.get "geometry")).mapM vertex)

/-- Points of an overview polyline. -/
def overviewGeometry (route : Fields) (precisions : List Int) : Except Fault (List Point) :=
  Polyline.decodeFirst (encodedText (route.get "overview_polyline")) precisions

/-- The position at one end of a leg or step. -/
def endPoint : Json → Except Fault (Option Point)
  | .object fields =>
    recoverWhen Fault.isUnusable none do
      let longitude ← (← (Json.object fields).member "lng").toNumber
      let latitude ← (← (Json.object fields).member "lat").toNumber
      return some ⟨longitude, latitude⟩
  | _ => .ok none

/-- The steps of a leg, or the leg itself if it has none. -/
def anchors (leg : Fields) : List Fields :=
  match leg.get "steps" with
  | .list (first :: more) => (first :: more).filterMap Json.fields?
  | _ => [leg]

/-- The start and the end of a leg or step. -/
def endPoints (anchor : Fields) : Except Fault (List Point) := do
  let start ← endPoint (anchor.get "start_location")
  let stop ← endPoint (anchor.get "end_location")
  return start.toList ++ stop.toList

/-- Points of one leg: its polyline, then the ends of its steps. -/
def legPoints (precisions : List Int) (leg : Fields) : Except Fault (List Point) := do
  let drawn ← Polyline.decodeFirst (encodedText (leg.get "polyline")) precisions
  let ends ← (anchors leg).mapM endPoints
  return drawn ++ ends.flatten

/-- Points of all legs, thinned. -/
def legGeometry (route : Fields) (precisions : List Int) : Except Fault (List Point) := do
  return Point.thin (← (legs route).mapM (legPoints precisions)).flatten

/-- The sources of geometry, in order of preference. -/
def sources : List (Fields → List Int → Except Fault (List Point)) :=
  [encodedGeometry, coordinateGeometry, overviewGeometry, legGeometry]

/-- The points of the first source that has any. -/
def firstGeometry (route : Fields) (precisions : List Int) :
    List (Fields → List Int → Except Fault (List Point)) → Except Fault (List Point)
  | [] => .ok []
  | source :: more => do
    let points ← source route precisions
    if points.isEmpty then firstGeometry route precisions more else return points

/-- The route that an object describes. -/
def ofFields (route : Fields) (precisions : List Int) : Except Fault Route := do
  let (metres, seconds) ← totals route
  let points ← firstGeometry route precisions sources
  return ⟨metres / 1000, seconds / 3600, points⟩

/-- The first route of a directions document. -/
def ofPayload (payload : Fields) (precisions : List Int) : Except Fault Route := do
  let routes := payload.get "routes"
  if !routes.isTruthy then return empty
  match ← routes.item 0 with
  | .object route => ofFields route precisions
  | _ => return empty

/-- A directions text that is not a document with routes. -/
def parseFault (message : String) : Fault := .routeUnavailable message "directions_parse_error"

/-- The first route of a directions text. -/
def ofText (text : String) (precisions : List Int) : Except Fault Route :=
  match Json.read text with
  | .ok (.object payload) => ofPayload payload precisions
  | .ok _ => .error (parseFault "Directions response is not a JSON object")
  | .error fault =>
    .error (if fault.isMalformed then parseFault "Directions response is not valid JSON" else fault)

end Route

end JourneyCost
