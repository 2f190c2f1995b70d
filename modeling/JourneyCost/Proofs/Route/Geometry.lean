import JourneyCost.Proofs.Geo.Position
import JourneyCost.Proofs.Polyline.Overrun
import JourneyCost.Route.Directions

/-!
# Sources of geometry

A route has four sources of geometry.  A source has points, or it is void and the next one is
tried, or it breaks off the reading: with a number that no float can hold, or with an object in
place of a coordinate pair.
-/

namespace JourneyCost.Route

open Json (HugePair readPair)
open Polyline (AreUsable IsComplete Overruns)

/-- The sources of geometry. -/
inductive Source where
  /-- An encoded geometry. -/
  | encoded
  /-- A list of coordinates. -/
  | coordinates
  /-- An overview polyline. -/
  | overview
  /-- The legs. -/
  | legs
deriving DecidableEq, Repr

/-- A location has a coordinate that no float can hold. -/
def HugeEnd (location : Json) : Prop := HugePair (location.member "lng") (location.member "lat")

/-- The members that locate the ends of a leg or step. -/
def endKeys : List String := ["start_location", "end_location"]

/-- A leg has a position, or an end of it or of a step, that no float can hold. -/
def HugeLeg (leg : Fields) : Prop :=
  Overruns (encodedText (leg.get "polyline")) ∨
    ∃ anchor ∈ anchors leg, ∃ key ∈ endKeys, HugeEnd (anchor.get key)

/-- A leg has a complete polyline, or an end of it or of a step can be read. -/
def LocatedLeg (leg : Fields) : Prop :=
  IsComplete (encodedText (leg.get "polyline")).toList ∨
    ∃ anchor ∈ anchors leg, ∃ key ∈ endKeys, ∃ p, endPoint (anchor.get key) = .ok (some p)

namespace Source

/-- The sources in order of preference. -/
def order : List Source := [encoded, coordinates, overview, legs]

/-- The points of a source. -/
def read : Source → Fields → List Int → Except Fault (List Point)
  | encoded => encodedGeometry
  | coordinates => coordinateGeometry
  | overview => overviewGeometry
  | legs => legGeometry

theorem sources_eq : sources = order.map read := rfl

/-- A source has points: its text is complete, each of its pairs can be read, or one of its legs
is located. -/
def HasPoints (route : Fields) : Source → Prop
  | encoded => ∃ s, route.get "geometry" = .text s ∧ IsComplete (Text.trim s).toList
  | coordinates =>
    coordinateList (route.get "geometry") ≠ [] ∧
      ∀ pair ∈ coordinateList (route.get "geometry"), ∃ p, vertex pair = .ok p
  | overview => IsComplete (encodedText (route.get "overview_polyline")).toList
  | legs => ∃ leg ∈ Route.legs route, LocatedLeg leg

/-- What a source breaks off the reading with. -/
inductive Breaks (route : Fields) : Source → Fault → Prop
  /-- A position of an encoded geometry is too large. -/
  | encoded {s : String} :
      route.get "geometry" = .text s → Overruns (Text.trim s) → Breaks route encoded .overflow
  /-- The first pair that cannot be read has a coordinate that is too large. -/
  | hugeVertex {before after : List Json} {pair : Json} :
      coordinateList (route.get "geometry") = before ++ pair :: after →
      (∀ earlier ∈ before, ∃ p, vertex earlier = .ok p) →
      HugePair (pair.item 0) (pair.item 1) → Breaks route coordinates .overflow
  /-- The first pair that cannot be read is an object. -/
  | objectVertex {before after : List Json} {fields : Fields} :
      coordinateList (route.get "geometry") = before ++ .object fields :: after →
      (∀ earlier ∈ before, ∃ p, vertex earlier = .ok p) →
      Breaks route coordinates .missingMember
  /-- A position of the overview is too large. -/
  | overview :
      Overruns (encodedText (route.get "overview_polyline")) → Breaks route overview .overflow
  /-- A leg is too large. -/
  | legs {leg : Fields} : leg ∈ Route.legs route → HugeLeg leg → Breaks route legs .overflow

/-- A source is of no use, and the next one is tried. -/
def IsVoid (route : Fields) (source : Source) : Prop :=
  ¬ source.HasPoints route ∧ ∀ fault, ¬ Breaks route source fault

end Source

variable {route leg anchor : Fields} {precisions : List Int} {points : List Point} {fault : Fault}

theorem encodedGeometry_eq_error_iff (usual : AreUsable precisions) :
    encodedGeometry route precisions = .error fault ↔ Source.Breaks route .encoded fault := by
  constructor
  · intro failed
    unfold encodedGeometry at failed
    split at failed
    · rename_i s given
      obtain ⟨rfl, overruns⟩ := (Polyline.decodeFirst_eq_error_iff usual).mp failed
      exact .encoded given overruns
    · simp at failed
  · intro breaks
    cases breaks with
    | encoded given overruns =>
        unfold encodedGeometry
        simp only [given]
        exact (Polyline.decodeFirst_eq_error_iff usual).mpr ⟨rfl, overruns⟩

theorem points_of_encodedGeometry (usual : AreUsable precisions)
    (given : encodedGeometry route precisions = .ok points) :
    points ≠ [] ↔ Source.HasPoints route .encoded := by
  unfold encodedGeometry at given
  split at given
  · rename_i s isText
    rw [Polyline.points_of_decodeFirst usual given]
    simp [Source.HasPoints, isText]
  · rename_i noText
    obtain rfl : [] = points := Except.ok.inj given
    simp only [ne_eq, not_true_eq_false, Source.HasPoints, false_iff, not_exists, not_and]
    exact fun s isText => absurd isText (noText s)

theorem overviewGeometry_eq_error_iff (usual : AreUsable precisions) :
    overviewGeometry route precisions = .error fault ↔ Source.Breaks route .overview fault := by
  rw [overviewGeometry, Polyline.decodeFirst_eq_error_iff usual]
  constructor
  · rintro ⟨rfl, overruns⟩
    exact .overview overruns
  · intro breaks
    cases breaks with
    | overview overruns => exact ⟨rfl, overruns⟩

theorem vertex_eq (pair : Json) : vertex pair = readPair (pair.item 0) (pair.item 1) Point.mk := rfl

/-- What a pair can break off the reading with. -/
theorem vertex_eq_error {pair : Json} (failed : vertex pair = .error fault)
    (stops : spoilsGeometry fault = false) :
    fault = .overflow ∧ HugePair (pair.item 0) (pair.item 1) ∨
      fault = .missingMember ∧ ∃ fields, pair = .object fields := by
  have numeric : ∀ {value : Json}, value.toNumber = .error fault →
      fault = .overflow ∧ value.IsHuge := by
    intro value unread
    rcases Json.toNumber_eq_error unread with overflow | unreadable
    · exact overflow
    · simp [spoilsGeometry, unreadable] at stops
  have placed : ∀ {position : Nat}, pair.item position = .error fault →
      fault = .missingMember ∧ ∃ fields, pair = .object fields := by
    intro position absent
    rcases Json.item_eq_error absent with object | rfl | rfl
    · exact object
    · exact absurd stops (by decide)
    · exact absurd stops (by decide)
  rw [vertex_eq, Json.readPair_eq_error_iff] at failed
  rcases failed with early | ⟨value, found, unread | ⟨x, isNumber, late | ⟨other, beside, unread⟩⟩⟩
  · exact .inr (placed early)
  · obtain ⟨overflow, huge⟩ := numeric unread
    exact .inl ⟨overflow, .inl ⟨value, found, huge⟩⟩
  · exact .inr (placed late)
  · obtain ⟨overflow, huge⟩ := numeric unread
    exact .inl ⟨overflow, .inr ⟨value, x, other, found, isNumber, beside, huge⟩⟩

theorem coordinateGeometry_eq_error_iff (precisions : List Int) :
    coordinateGeometry route precisions = .error fault ↔
      Source.Breaks route .coordinates fault := by
  rw [coordinateGeometry, recoverWhen_eq_error, mapM_eq_error_iff]
  constructor
  · rintro ⟨⟨before, pair, after, listed, readable, failed⟩, stops⟩
    rcases vertex_eq_error failed stops with ⟨rfl, huge⟩ | ⟨rfl, fields, rfl⟩
    · exact .hugeVertex listed readable huge
    · exact .objectVertex listed readable
  · intro breaks
    cases breaks with
    | hugeVertex listed readable huge =>
        exact ⟨⟨_, _, _, listed, readable, Json.readPair_of_hugePair huge⟩, rfl⟩
    | objectVertex listed readable => exact ⟨⟨_, _, _, listed, readable, rfl⟩, rfl⟩

theorem points_of_coordinateGeometry (precisions : List Int)
    (given : coordinateGeometry route precisions = .ok points) :
    points ≠ [] ↔ Source.HasPoints route .coordinates := by
  unfold coordinateGeometry at given
  cases read : (coordinateList (route.get "geometry")).mapM vertex with
  | ok vertices =>
      rw [read] at given
      obtain rfl : vertices = points := Except.ok.inj given
      have each := readable_of_mapM read
      constructor
      · intro filled
        obtain ⟨p, member⟩ := List.exists_mem_of_ne_nil vertices filled
        obtain ⟨pair, listed, -⟩ := (mem_iff_of_mapM read).mp member
        exact ⟨List.ne_nil_of_mem listed, each⟩
      · rintro ⟨listed, -⟩
        obtain ⟨pair, member⟩ := List.exists_mem_of_ne_nil _ listed
        obtain ⟨p, isVertex⟩ := each pair member
        exact List.ne_nil_of_mem ((mem_iff_of_mapM read).mpr ⟨pair, member, isVertex⟩)
  | error cause =>
      obtain ⟨before, pair, after, listed, -, failed⟩ := mapM_eq_error_iff.mp read
      have spoilt : [] = points := by
        rw [read, recoverWhen] at given
        split at given
        · exact Except.ok.inj given
        · simp at given
      constructor
      · exact fun filled => absurd spoilt.symm filled
      · rintro ⟨-, each⟩
        obtain ⟨p, isVertex⟩ := each pair (by simp [listed])
        rw [failed] at isVertex
        cases isVertex

theorem endPoint_eq_error_iff {location : Json} :
    endPoint location = .error fault ↔ fault = .overflow ∧ HugeEnd location := by
  cases location with
  | object fields =>
      exact Geo.recoverWhen_isUnusable_eq_error_iff (fun _ => Json.isUnusable_of_member)
        fun _ => Json.isUnusable_of_member
  | null | bool | int | float | text | list => simp [endPoint, HugeEnd, HugePair, Json.member]

theorem endPoints_eq_error_iff :
    endPoints anchor = .error fault ↔
      fault = .overflow ∧ ∃ key ∈ endKeys, HugeEnd (anchor.get key) := by
  have ends : (∃ key ∈ endKeys, HugeEnd (anchor.get key)) ↔
      HugeEnd (anchor.get "start_location") ∨ HugeEnd (anchor.get "end_location") := by
    simp [endKeys]
  rw [ends, endPoints]
  refine bind_eq_error_iff_or (fun cause => endPoint_eq_error_iff) fun start _ => ?_
  simp only [bind_eq_error, endPoint_eq_error_iff, pure, Except.pure, reduceCtorEq, and_false,
    exists_false, or_false]

theorem ends_of_endPoints {ends : List Point} (given : endPoints anchor = .ok ends) :
    ends ≠ [] ↔ ∃ key ∈ endKeys, ∃ p, endPoint (anchor.get key) = .ok (some p) := by
  simp only [endPoints, bind_eq_ok] at given
  obtain ⟨start, isStart, stop, isStop, returned⟩ := given
  obtain rfl : start.toList ++ stop.toList = ends := Except.ok.inj returned
  simp only [endKeys, List.exists_mem_cons_iff, isStart, isStop]
  cases start <;> cases stop <;> simp

theorem legPoints_eq_error_iff (usual : AreUsable precisions) :
    legPoints precisions leg = .error fault ↔ fault = .overflow ∧ HugeLeg leg := by
  have ends : (anchors leg).mapM endPoints = .error fault ↔ fault = .overflow ∧
      ∃ anchor ∈ anchors leg, ∃ key ∈ endKeys, HugeEnd (anchor.get key) :=
    mapM_eq_error_iff_exists fun anchor _ cause => endPoints_eq_error_iff
  refine bind_eq_error_iff_or (fun cause => Polyline.decodeFirst_eq_error_iff usual)
    fun drawn _ => ?_
  simp only [bind_eq_error, ends, pure, Except.pure, reduceCtorEq, and_false, exists_false,
    or_false]

theorem points_of_legPoints (usual : AreUsable precisions)
    (given : legPoints precisions leg = .ok points) :
    points ≠ [] ↔ LocatedLeg leg := by
  simp only [legPoints, bind_eq_ok] at given
  obtain ⟨drawn, isDrawn, ends, located, returned⟩ := given
  obtain rfl : drawn ++ ends.flatten = points := Except.ok.inj returned
  rw [LocatedLeg, ← Polyline.points_of_decodeFirst usual isDrawn, ne_eq,
    List.append_eq_nil_iff, not_and_or,
    ← ne_eq, ← ne_eq, flatten_ne_nil_of_mapM located]
  refine or_congr_right (exists_congr fun anchor => and_congr_right fun member => ?_)
  obtain ⟨own, isOwn⟩ := readable_of_mapM located anchor member
  simp only [isOwn, Except.ok.injEq, exists_eq_left', ends_of_endPoints isOwn]

theorem legGeometry_eq_error_iff (usual : AreUsable precisions) :
    legGeometry route precisions = .error fault ↔ Source.Breaks route .legs fault := by
  have each : (legs route).mapM (legPoints precisions) = .error fault ↔
      fault = .overflow ∧ ∃ leg ∈ legs route, HugeLeg leg :=
    mapM_eq_error_iff_exists fun leg _ cause => legPoints_eq_error_iff usual
  rw [legGeometry, bind_eq_error, each]
  simp only [pure, Except.pure, reduceCtorEq, and_false, exists_false, or_false]
  constructor
  · rintro ⟨rfl, leg, member, huge⟩
    exact .legs member huge
  · intro breaks
    cases breaks with
    | legs member huge => exact ⟨rfl, _, member, huge⟩

theorem thin_eq_nil_iff : Point.thin points = [] ↔ points = [] := by
  cases points <;> simp [Point.thin]

theorem points_of_legGeometry (usual : AreUsable precisions)
    (given : legGeometry route precisions = .ok points) :
    points ≠ [] ↔ Source.HasPoints route .legs := by
  rw [legGeometry, bind_eq_ok] at given
  obtain ⟨each, drawn, returned⟩ := given
  obtain rfl : Point.thin each.flatten = points := Except.ok.inj returned
  rw [ne_eq, thin_eq_nil_iff, ← ne_eq, flatten_ne_nil_of_mapM drawn]
  refine exists_congr fun leg => and_congr_right fun member => ?_
  obtain ⟨own, isOwn⟩ := readable_of_mapM drawn leg member
  simp only [isOwn, Except.ok.injEq, exists_eq_left', points_of_legPoints usual isOwn]

/-! ## Any source -/

namespace Source

theorem read_eq_error_iff (usual : AreUsable precisions) {source : Source} :
    source.read route precisions = .error fault ↔ Breaks route source fault := by
  cases source with
  | encoded => exact encodedGeometry_eq_error_iff usual
  | coordinates => exact coordinateGeometry_eq_error_iff precisions
  | overview => exact overviewGeometry_eq_error_iff usual
  | legs => exact legGeometry_eq_error_iff usual

theorem points_of_read (usual : AreUsable precisions) {source : Source}
    (given : source.read route precisions = .ok points) :
    points ≠ [] ↔ source.HasPoints route := by
  cases source with
  | encoded => exact points_of_encodedGeometry usual given
  | coordinates => exact points_of_coordinateGeometry precisions given
  | overview => exact Polyline.points_of_decodeFirst usual given
  | legs => exact points_of_legGeometry usual given

theorem read_eq_nil_iff (usual : AreUsable precisions) {source : Source} :
    source.read route precisions = .ok [] ↔ source.IsVoid route := by
  constructor
  · intro nothing
    refine ⟨fun has => (points_of_read usual nothing).mpr has rfl, fun fault breaks => ?_⟩
    rw [(read_eq_error_iff usual).mpr breaks] at nothing
    cases nothing
  · rintro ⟨hasNone, whole⟩
    cases given : source.read route precisions with
    | error fault => exact absurd ((read_eq_error_iff usual).mp given) (whole fault)
    | ok points =>
        by_contra filled
        exact hasNone ((points_of_read usual given).mp fun none => filled (by rw [none]))

/-- A source is tried: those before it are void. -/
def IsTried (route : Fields) (sources : List Source) (source : Source) : Prop :=
  ∃ before after, sources = before ++ source :: after ∧ ∀ earlier ∈ before, earlier.IsVoid route

theorem isTried_cons {first source : Source} {rest : List Source} :
    IsTried route (first :: rest) source ↔
      source = first ∨ first.IsVoid route ∧ IsTried route rest source := by
  constructor
  · rintro ⟨before, after, split, void⟩
    cases before with
    | nil => exact .inl (List.cons.inj split).1.symm
    | cons head before =>
        obtain ⟨rfl, rfl⟩ := List.cons.inj split
        obtain ⟨voidFirst, voidRest⟩ := List.forall_mem_cons.mp void
        exact .inr ⟨voidFirst, before, after, rfl, voidRest⟩
  · rintro (rfl | ⟨voidFirst, before, after, rfl, voidRest⟩)
    · exact ⟨[], rest, rfl, by simp⟩
    · exact ⟨first :: before, after, rfl, List.forall_mem_cons.mpr ⟨voidFirst, voidRest⟩⟩

end Source

section

variable {source : Source} {more : List (Fields → List Int → Except Fault (List Point))}
  {sources : List Source}

theorem firstGeometry_of_isVoid (usual : AreUsable precisions) (void : source.IsVoid route) :
    firstGeometry route precisions (source.read :: more) =
      firstGeometry route precisions more := by
  rw [firstGeometry, (Source.read_eq_nil_iff usual).mpr void]
  rfl

theorem firstGeometry_of_not_isVoid (usual : AreUsable precisions)
    (matters : ¬ source.IsVoid route) :
    firstGeometry route precisions (source.read :: more) = source.read route precisions := by
  rw [firstGeometry]
  cases given : source.read route precisions with
  | error fault => rfl
  | ok points =>
      cases points with
      | nil => exact absurd ((Source.read_eq_nil_iff usual).mp given) matters
      | cons p rest => rfl

theorem firstGeometry_eq_error_iff (usual : AreUsable precisions) :
    firstGeometry route precisions (sources.map Source.read) = .error fault ↔
      ∃ source, Source.IsTried route sources source ∧ Source.Breaks route source fault := by
  induction sources with
  | nil => simp [firstGeometry, Source.IsTried]
  | cons first rest induction =>
      simp only [List.map_cons, Source.isTried_cons]
      by_cases void : first.IsVoid route
      · rw [firstGeometry_of_isVoid usual void, induction]
        refine exists_congr fun source => and_congr_left fun breaks => ?_
        have other : source ≠ first := fun same => void.2 fault (same ▸ breaks)
        simp [other, void]
      · rw [firstGeometry_of_not_isVoid usual void, Source.read_eq_error_iff usual]
        simp [void]

theorem firstGeometry_eq_ok (usual : AreUsable precisions)
    (drawn : firstGeometry route precisions (sources.map Source.read) = .ok points) :
    (∃ source, Source.IsTried route sources source ∧ source.HasPoints route ∧
      source.read route precisions = .ok points) ∨
    (∀ source ∈ sources, source.IsVoid route) ∧ points = [] := by
  induction sources with
  | nil => exact .inr ⟨by simp, (Except.ok.inj drawn).symm⟩
  | cons first rest induction =>
      simp only [List.map_cons] at drawn
      simp only [Source.isTried_cons, List.forall_mem_cons]
      by_cases void : first.IsVoid route
      · rw [firstGeometry_of_isVoid usual void] at drawn
        rcases induction drawn with ⟨source, tried, given⟩ | ⟨allVoid, none⟩
        · exact .inl ⟨source, .inr ⟨void, tried⟩, given⟩
        · exact .inr ⟨⟨void, allVoid⟩, none⟩
      · rw [firstGeometry_of_not_isVoid usual void] at drawn
        refine .inl ⟨first, .inl rfl, ?_, drawn⟩
        refine (Source.points_of_read usual drawn).mp fun none => void ?_
        rwa [none, Source.read_eq_nil_iff usual] at drawn

end

end JourneyCost.Route
