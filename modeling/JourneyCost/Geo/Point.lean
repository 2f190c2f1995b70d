/-!
# Points

A point is a longitude and a latitude in degrees.  Two points are near when both coordinates
differ by no more than a tolerance; a sequence of points is thinned by dropping each one that is
near the last one kept.
-/

namespace JourneyCost

/-- A position on the globe, in degrees. -/
structure Point where
  /-- Degrees east. -/
  longitude : Float
  /-- Degrees north. -/
  latitude : Float
deriving Inhabited, DecidableEq

namespace Point

/-- Coordinates that differ by no more than this belong to one place. -/
def tolerance : Float := 1e-9

/-- Whether both coordinates differ by no more than the tolerance. -/
def isNear (p q : Point) : Bool :=
  (p.longitude - q.longitude).abs ≤ tolerance && (p.latitude - q.latitude).abs ≤ tolerance

/-- The points of a sequence that are not near the last one kept before them. -/
def thinAfter (kept : Point) : List Point → List Point
  | [] => []
  | p :: rest => if kept.isNear p then thinAfter kept rest else p :: thinAfter p rest

/-- A sequence without points that are near the last one kept. -/
def thin : List Point → List Point
  | [] => []
  | p :: rest => p :: thinAfter p rest

end Point

end JourneyCost
