import JourneyCost.Proofs.Fault
import JourneyCost.Proofs.Geo.Thinning
import JourneyCost.Proofs.Route.Parsing

/-!
# Points of the legs

The points of a leg are the vertices of its polyline, and after them both of its ends.  So the
points of a route are those of its drives, in their order, exactly when every drive is round.
-/

namespace JourneyCost.Route

open Point (Separated thin thinAfter)

/-- The vertices of a polyline that has some. -/
structure Drive where
  /-- The first vertex. -/
  start : Point
  /-- The vertices after it. -/
  rest : List Point

namespace Drive

/-- The vertices in order of travel. -/
def points (drive : Drive) : List Point := drive.start :: drive.rest

/-- The last vertex. -/
def stop (drive : Drive) : Point := drive.rest.getLastD drive.start

/-- The vertices, then the first and the last once more. -/
def retraced (drive : Drive) : List Point := drive.points ++ [drive.start, drive.stop]

/-- A drive ends where it starts. -/
def isRound (drive : Drive) : Bool := drive.start.isNear drive.stop

end Drive

/-- A leg without steps is a drive, between the ends that it names. -/
structure IsDriven (precision : Int) (leg : Fields) (drive : Drive) : Prop where
  /-- The polyline has the vertices of the drive. -/
  drawn : Polyline.decode precision (encodedText (leg.get "polyline")) = .ok drive.points
  /-- There are no steps. -/
  stepless : ∀ first more, leg.get "steps" ≠ .list (first :: more)
  /-- The leg starts at the first vertex. -/
  starts : endPoint (leg.get "start_location") = .ok (some drive.start)
  /-- The leg ends at the last vertex. -/
  stops : endPoint (leg.get "end_location") = .ok (some drive.stop)

variable {payload route leg : Fields} {precision : Int} {more : List Int} {drive : Drive}
  {drives : List Drive} {points : List Point} {kept : Point}

theorem legPoints_of_isDriven (driven : IsDriven precision leg drive) :
    legPoints (precision :: more) leg = .ok drive.retraced := by
  have itself : anchors leg = [leg] := by
    unfold anchors
    split
    · exact absurd ‹_› (driven.stepless _ _)
    · rfl
  simp only [legPoints, Polyline.decodeFirst, driven.drawn, itself, List.mapM_cons, List.mapM_nil,
    endPoints, driven.starts, driven.stops]
  rfl

theorem mapM_legPoints {legs : List Fields}
    (driven : List.Forall₂ (IsDriven precision) legs drives) :
    legs.mapM (legPoints (precision :: more)) = .ok (drives.map Drive.retraced) :=
  mapM_of_forall₂ (List.forall₂_map_right_iff.mpr (driven.imp fun _ _ => legPoints_of_isDriven))

/-- With nothing else to draw it, a route has the points of its legs. -/
theorem firstGeometry_of_legs {precisions : List Int} (noGeometry : route.get "geometry" = .null)
    (noOverview : route.get "overview_polyline" = .null) :
    firstGeometry route precisions sources = legGeometry route precisions := by
  have overview : overviewGeometry route precisions = .ok [] := by
    rw [overviewGeometry, noOverview]
    exact Polyline.decodeFirst_of_decode_nil fun _ _ => rfl
  simp only [sources, firstGeometry, encodedGeometry, coordinateGeometry, noGeometry, overview]
  cases read : legGeometry route precisions with
  | error fault => rfl
  | ok points => cases points <;> rfl

namespace Drive

/-- The way back to the start and on to the end, of a drive that is not round. -/
def detour (drive : Drive) : List Point :=
  if drive.isRound then [] else [drive.start, drive.stop]

theorem length_detour (drive : Drive) :
    drive.detour.length = 2 * if drive.isRound then 0 else 1 := by
  rw [detour]
  split <;> rfl

theorem getLastD_points (drive : Drive) (p : Point) : drive.points.getLastD p = drive.stop :=
  List.getLastD_cons

theorem start_mem (drive : Drive) : drive.start ∈ drive.points := List.mem_cons_self

theorem stop_mem (drive : Drive) : drive.stop ∈ drive.points := List.getLastD_mem_cons

theorem retraced_subset (drive : Drive) : drive.retraced ⊆ drive.points :=
  List.append_subset.mpr ⟨List.Subset.refl _, by simp [drive.start_mem, drive.stop_mem]⟩

end Drive

section

variable (separated : Separated points)

include separated

/-- From the end of a drive, its ends once more are the detour, after which thinning goes on as if
there had been none. -/
theorem thinAfter_ends (ofKept : kept ∈ points) (ofDrive : drive.points ⊆ points)
    (near : kept.isNear drive.stop = true) {way : List Point} (ofWay : way ⊆ points) :
    thinAfter kept ([drive.start, drive.stop] ++ way) = drive.detour ++ thinAfter kept way := by
  have ofStart := ofDrive drive.start_mem
  have ofStop := ofDrive drive.stop_mem
  -- Seen from the end of the drive, its start is near exactly if the drive is round.
  have back : kept.isNear drive.start = drive.isRound := by
    rw [separated.isNear_congr ofKept ofStop near ofStart, Drive.isRound, Bool.eq_iff_iff]
    exact ⟨separated.symm ofStop ofStart, separated.symm ofStart ofStop⟩
  rw [List.cons_append, List.cons_append, List.nil_append, thinAfter, back, Drive.detour]
  split
  · rw [thinAfter, if_pos near, List.nil_append]
  · rename_i turns
    rw [Drive.isRound] at turns
    rw [thinAfter, if_neg turns, separated.thinAfter_congr ofKept ofStop near ofWay]
    rfl

/-- A drive with its ends once more has its points, and then the detour. -/
theorem thinAfter_retraced (ofKept : kept ∈ points) (ofDrive : drive.points ⊆ points)
    {way : List Point} (ofWay : way ⊆ points) :
    thinAfter kept (drive.retraced ++ way) = thinAfter kept drive.points ++
      (drive.detour ++ thinAfter (Point.lastKept kept drive.points) way) := by
  have near := separated.near_last ofKept ofDrive (separated.self kept ofKept)
  rw [drive.getLastD_points] at near
  rw [Drive.retraced, List.append_assoc, Point.thinAfter_append,
    thinAfter_ends separated (Point.lastKept_mem ofKept ofDrive) ofDrive near ofWay]

/-- Over drives one after the other, nothing is added but the detours, and nothing is lost. -/
theorem thinAfter_drives (ofKept : kept ∈ points)
    (ofDrives : ∀ drive ∈ drives, drive.points ⊆ points) :
    (thinAfter kept (drives.flatMap Drive.points)).Sublist
        (thinAfter kept (drives.flatMap Drive.retraced)) ∧
      (thinAfter kept (drives.flatMap Drive.retraced)).length =
        (thinAfter kept (drives.flatMap Drive.points)).length +
          2 * drives.countP (!·.isRound) := by
  induction drives generalizing kept with
  | nil => exact ⟨.slnil, rfl⟩
  | cons drive rest induction =>
      obtain ⟨ofDrive, ofRest⟩ := List.forall_mem_cons.mp ofDrives
      have ofWay : rest.flatMap Drive.retraced ⊆ points := by
        intro p member
        obtain ⟨next, ofNext, inNext⟩ := List.mem_flatMap.mp member
        exact ofRest next ofNext (next.retraced_subset inNext)
      obtain ⟨sublist, length⟩ := induction (Point.lastKept_mem ofKept ofDrive) ofRest
      rw [List.flatMap_cons, List.flatMap_cons, Point.thinAfter_append,
        thinAfter_retraced separated ofKept ofDrive ofWay]
      refine ⟨(List.Sublist.refl _).append (sublist.trans (List.sublist_append_right _ _)), ?_⟩
      simp only [List.length_append, length, drive.length_detour, List.countP_cons]
      cases drive.isRound <;> simp <;> omega

end

/-- A route through drives has the points of its drives, and the detours. -/
theorem thin_drives (separated : Separated (drives.flatMap Drive.points)) :
    (thin (drives.flatMap Drive.points)).Sublist (thin (drives.flatMap Drive.retraced)) ∧
      (thin (drives.flatMap Drive.retraced)).length =
        (thin (drives.flatMap Drive.points)).length + 2 * drives.countP (!·.isRound) := by
  cases drives with
  | nil => exact ⟨.slnil, rfl⟩
  | cons drive rest =>
      have ofDrives : ∀ next ∈ drive :: rest,
          next.points ⊆ (drive :: rest).flatMap Drive.points :=
        fun next member p ofNext => List.mem_flatMap.mpr ⟨next, member, ofNext⟩
      have ofStart := ofDrives drive List.mem_cons_self drive.start_mem
      obtain ⟨sublist, length⟩ := thinAfter_drives separated ofStart ofDrives
      have near := separated.self _ ofStart
      rw [Point.thin_eq rfl near, Point.thin_eq rfl near, List.length_cons, List.length_cons,
        length]
      exact ⟨sublist.cons_cons _, Nat.add_right_comm _ _ _⟩

/-- The points that the legs of a route give it are the vertices of its drives, where each that does
not end where it starts is followed by a way back to its start and on to its end: two points each,
while none is lost.  So they are the points of the drives, in their order, exactly when all of these
are round. -/
theorem ofPayload_of_drives (first : FirstRoute payload route)
    (noGeometry : route.get "geometry" = .null)
    (noOverview : route.get "overview_polyline" = .null)
    (driven : List.Forall₂ (IsDriven precision) (legs route) drives) :
    (ofPayload payload (precision :: more) = (totals route).map fun total =>
        ⟨total.1 / 1000, total.2 / 3600, thin (drives.flatMap Drive.retraced)⟩) ∧
      (Separated (drives.flatMap Drive.points) →
        (thin (drives.flatMap Drive.points)).Sublist (thin (drives.flatMap Drive.retraced)) ∧
          (thin (drives.flatMap Drive.retraced)).length =
            (thin (drives.flatMap Drive.points)).length + 2 * drives.countP (!·.isRound) ∧
          (thin (drives.flatMap Drive.retraced) = thin (drives.flatMap Drive.points) ↔
            ∀ drive ∈ drives, drive.isRound = true)) := by
  refine ⟨?_, fun separated => ?_⟩
  · have drawn : firstGeometry route (precision :: more) sources =
        .ok (thin (drives.flatMap Drive.retraced)) := by
      rw [firstGeometry_of_legs noGeometry noOverview, legGeometry, mapM_legPoints driven]
      rfl
    rw [ofPayload_of_firstRoute first, ofFields, drawn]
    cases totals route <;> rfl
  · obtain ⟨sublist, length⟩ := thin_drives separated
    refine ⟨sublist, length, fun same => ?_, fun round => ?_⟩
    · rw [same, Nat.left_eq_add, Nat.mul_eq_zero, List.countP_eq_zero] at length
      simpa using length
    · have none : drives.countP (!·.isRound) = 0 := by simpa [List.countP_eq_zero] using round
      rw [none] at length
      exact (sublist.eq_of_length length.symm).symm

/-- A way there, and a way on and back to where that began. -/
theorem ofPayload_of_drives_tour :
    let degrees (p : Int × Int) : Json := .object [("lng", .int p.1), ("lat", .int p.2)]
    let leg (encoded : String) (start stop : Int × Int) : Fields :=
      [("polyline", .text encoded), ("start_location", degrees start),
        ("end_location", degrees stop)]
    let route : Fields := [("legs", .list
      [.object (leg "_w\x7biD_a~tM_ibE_ibE" (77, 28) (78, 29)),
        .object (leg "_a_pD_ka\x7bM_ibE_ibE~hbE~hbE" (78, 29) (78, 29))])]
    let payload : Fields := [("routes", .list [.object route])]
    let drives : List Drive := [⟨⟨77, 28⟩, [⟨78, 29⟩]⟩, ⟨⟨78, 29⟩, [⟨79, 30⟩, ⟨78, 29⟩]⟩]
    List.Forall₂ (IsDriven 5) (legs route) drives ∧ Separated (drives.flatMap Drive.points) ∧
      ofPayload payload [5] =
        .ok ⟨0, 0, [⟨77, 28⟩, ⟨78, 29⟩, ⟨77, 28⟩, ⟨78, 29⟩, ⟨79, 30⟩, ⟨78, 29⟩]⟩ ∧
      (thin (drives.flatMap Drive.retraced)).length = 6 := by
  intro degrees leg route payload drives
  have first : FirstRoute payload route := ⟨[], rfl⟩
  have there : IsDriven 5 (leg "_w\x7biD_a~tM_ibE_ibE" (77, 28) (78, 29)) ⟨⟨77, 28⟩, [⟨78, 29⟩]⟩ :=
    ⟨toOption_eq_some_iff.mp (by decide +kernel), fun _ _ => nofun,
      toOption_eq_some_iff.mp (by decide +kernel), toOption_eq_some_iff.mp (by decide +kernel)⟩
  have tour : IsDriven 5 (leg "_a_pD_ka\x7bM_ibE_ibE~hbE~hbE" (78, 29) (78, 29))
      ⟨⟨78, 29⟩, [⟨79, 30⟩, ⟨78, 29⟩]⟩ :=
    ⟨toOption_eq_some_iff.mp (by decide +kernel), fun _ _ => nofun,
      toOption_eq_some_iff.mp (by decide +kernel), toOption_eq_some_iff.mp (by decide +kernel)⟩
  have driven : List.Forall₂ (IsDriven 5) (legs route) drives := .cons there (.cons tour .nil)
  have separated : Separated (drives.flatMap Drive.points) := ⟨by decide +kernel, by decide +kernel⟩
  obtain ⟨found, thinned⟩ : ofPayload payload [5] = _ ∧ _ :=
    ofPayload_of_drives first rfl rfl driven
  obtain ⟨-, length, -⟩ := thinned separated
  refine ⟨driven, separated, ?_, ?_⟩
  · have nothing : totals route = .ok (0, 0) := toOption_eq_some_iff.mp (by decide +kernel)
    have vertices : thin (drives.flatMap Drive.retraced) =
        [⟨77, 28⟩, ⟨78, 29⟩, ⟨77, 28⟩, ⟨78, 29⟩, ⟨79, 30⟩, ⟨78, 29⟩] := by decide +kernel
    have zero : (0 / 1000 : Float) = 0 ∧ (0 / 3600 : Float) = 0 := by decide +kernel
    rw [found, nothing, vertices, Except.map, zero.1, zero.2]
  · have four : (thin (drives.flatMap Drive.points)).length = 4 := by decide +kernel
    have one : drives.countP (!·.isRound) = 1 := by decide +kernel
    rw [length, four, one]

/-- The points of a single drive are not those of its polyline: its start comes back. -/
theorem not_points_of_drives :
    ¬ ∀ (payload route : Fields) (precision : Int) (more : List Int) (drives : List Drive),
      FirstRoute payload route → route.get "geometry" = .null →
      route.get "overview_polyline" = .null →
      List.Forall₂ (IsDriven precision) (legs route) drives →
      drives.IsChain (fun drive next => drive.stop = next.start) →
      ∃ found, ofPayload payload (precision :: more) = .ok found ∧
        found.points = thin (drives.flatMap Drive.points) := by
  intro ordered
  let leg : Fields := [("polyline", .text "_p~iF~ps|U_ulLnnqC"),
    ("start_location", .object [("lat", .float 3.85), ("lng", .float (-12.02))]),
    ("end_location", .object [("lat", .float 4.07), ("lng", .float (-12.095))])]
  let route : Fields := [("legs", .list [.object leg])]
  let drive : Drive := ⟨⟨-12.02, 3.85⟩, [⟨-12.095, 4.07⟩]⟩
  have driven : IsDriven 6 leg drive :=
    ⟨toOption_eq_some_iff.mp (by decide +kernel), fun _ _ => nofun,
      toOption_eq_some_iff.mp (by decide +kernel), toOption_eq_some_iff.mp (by decide +kernel)⟩
  obtain ⟨found, read, points⟩ := ordered [("routes", .list [.object route])] route 6 [5] [drive]
    ⟨[], rfl⟩ rfl rfl (.cons driven .nil) (.singleton _)
  have length : (ofPayload [("routes", .list [.object route])] [6, 5]).toOption.map
      (·.points.length) = some 4 := by decide +kernel
  have two : (thin ([drive].flatMap Drive.points)).length = 2 := by decide +kernel
  rw [read, Except.toOption, Option.map_some, points, two] at length
  cases length

end JourneyCost.Route
