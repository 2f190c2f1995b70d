import JourneyCost.Map.Ask
import JourneyCost.Route.Directions

/-!
# Finding a route

Both ends of a journey are turned into positions, and directions are asked for.  If an end is off
the road, both are moved to the road, or failing that to the places nearest to them, and
directions are asked for once more.
-/

namespace JourneyCost

open Net Map

/-- One end of a journey. -/
inductive Endpoint where
  /-- A place with a name. -/
  | named (name : String)
  /-- A position. -/
  | position (point : Point)

namespace Route

/-- The position of an endpoint, if there is such a place. -/
def locate (client : Client) : Endpoint → Work Wire (Option Point)
  | .named name => client.geocode name
  | .position point => pure (some point)

/-- Positions of both ends on the road, if they can be found. -/
def onRoad (client : Client) (origin destination : Point) :
    Work Wire (Option (Point × Point)) := do
  match ← client.snap origin destination with
  | first :: second :: more => return some (first, (second :: more).getLastD second)
  | _ =>
    let start ← client.reverse origin
    let stop ← client.reverse destination
    return do return (← start, ← stop)

/-- The reason that directions failed with a status. -/
def statusReason (status : Int) : String := "directions_http_" ++ toString status

/-- A second attempt at directions, from positions on the road. -/
def retry (client : Client) (failed : Directions) (origin destination : Point) :
    Work Wire Directions := do
  if !Client.isUnroutable client.provider failed then
    Work.fail (.providerFailed "Directions request failed" (some failed.status)
      (statusReason failed.status))
  else
    match ← onRoad client origin destination with
    | none =>
      Work.fail (.routeUnavailable "Could not snap points to road" "could_not_snap_points")
    | some (start, stop) =>
      let answer ← client.directions start stop
      if answer.isOk then return answer
      else
        Work.fail (.routeUnavailable "Directions retry after snapping failed"
          (statusReason answer.status))

/-- Directions from one position to another, with a second attempt if they fail. -/
def ask (client : Client) (origin destination : Point) : Work Wire Directions := do
  let answer ← client.directions origin destination
  if answer.isOk then return answer else retry client answer origin destination

/-- The route in directions, which must have points. -/
def ofDirections (client : Client) (answer : Directions) : Except Fault Route := do
  let route ← ofText answer.text client.provider.precisions
  if route.points.isEmpty then
    throw (.routeUnavailable "Route returned no points" "route_has_no_points")
  return route

/-- The route from one endpoint to another. -/
def resolve (client : Client) (origin destination : Endpoint) : Work Wire Route := do
  let start ← locate client origin
  let stop ← locate client destination
  match start, stop with
  | some start, some stop =>
    let answer ← ask client start stop
    Work.ofExcept (ofDirections client answer)
  | _, _ => Work.fail .geocodeFailed

end Route

end JourneyCost
