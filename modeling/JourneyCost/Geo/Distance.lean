import JourneyCost.Fault
import JourneyCost.Geo.Point

/-!
# Great-circle distance

Distances are taken on a sphere by the haversine formula.  The distance of a place from a route
is that of the nearest vertex, so it is an upper bound that improves with the density of the
route.
-/

namespace JourneyCost.Geo

/-- Mean radius of the earth in kilometres. -/
def earthRadius : Float := 6371.0

/-- Radians to a degree. -/
def radian : Float := 0.017453292519943295

/-- The sine of a number that is not infinite. -/
def sine (x : Float) : Except Fault Float := if x.isInf then .error .malformed else .ok x.sin

/-- The cosine of a number that is not infinite. -/
def cosine (x : Float) : Except Fault Float := if x.isInf then .error .malformed else .ok x.cos

/-- The square root of a number that is not negative. -/
def root (x : Float) : Except Fault Float := if x < 0 then .error .malformed else .ok x.sqrt

/-- Kilometres between two positions, given by latitude and longitude. -/
def haversine (lat₁ lon₁ lat₂ lon₂ : Float) : Except Fault Float := do
  let halfLat ← sine ((lat₂ - lat₁) * radian / 2)
  let cos₁ ← cosine (lat₁ * radian)
  let cos₂ ← cosine (lat₂ * radian)
  let halfLon ← sine ((lon₂ - lon₁) * radian / 2)
  let chord := halfLat.pow 2 + cos₁ * cos₂ * halfLon.pow 2
  return earthRadius * (2 * Float.atan2 (← root chord) (← root (1 - chord)))

/-- Kilometres between two points. -/
def distance (p q : Point) : Except Fault Float :=
  haversine p.latitude p.longitude q.latitude q.longitude

/-- The distance to each vertex in turn, keeping the least one seen. -/
def leastFrom (measure : Point → Except Fault Float) (best : Float) :
    List Point → Except Fault Float
  | [] => .ok best
  | p :: rest => do
    let d ← measure p
    leastFrom measure (if d < best then d else best) rest

/-- The least distance to a vertex, infinite if there is none. -/
def least (measure : Point → Except Fault Float) (points : List Point) : Except Fault Float :=
  leastFrom measure (Float.ofBits 0x7FF0000000000000) points

/-- Kilometres from a place to the nearest vertex of a route. -/
def distanceToRoute (place : Point) (points : List Point) : Except Fault Float :=
  least (distance place) points

end JourneyCost.Geo
