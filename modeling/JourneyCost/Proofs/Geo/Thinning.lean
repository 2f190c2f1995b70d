import JourneyCost.Geo.Point
import JourneyCost.Proofs.Decimal.Sign

/-!
# Thinning a way

A way falls into stops in one way only: a point that is kept, and the points after it that are near
it and are dropped, up to one that is not.  Thinning keeps the first point of each stop, whether or
not nearness passes from point to point.
-/

namespace JourneyCost.Point

/-- Among some points, to be near is to be at one place. -/
structure Separated (points : List Point) : Prop where
  /-- Each point is near itself. -/
  self : ∀ p ∈ points, p.isNear p = true
  /-- Points near another one are near each other. -/
  shared : ∀ p ∈ points, ∀ q ∈ points, ∀ r ∈ points,
    p.isNear q = true → p.isNear r = true → q.isNear r = true

/-- The last point kept when a way is thinned. -/
def lastKept (kept : Point) (way : List Point) : Point := (thinAfter kept way).getLastD kept

/-- A point that is kept, with the points that are dropped after it. -/
structure Stop where
  /-- The point that is kept. -/
  kept : Point
  /-- The points that are dropped, up to the next one that is kept. -/
  dropped : List Point

/-- All points of a stop, in order. -/
def Stop.points (stop : Stop) : List Point := stop.kept :: stop.dropped

/-- A stop where nothing is dropped. -/
def Stop.bare (p : Point) : Stop := ⟨p, []⟩

/-- A way is divided into stops. -/
structure Divides (stops : List Stop) (way : List Point) : Prop where
  /-- The stops make up the way. -/
  whole : stops.flatMap Stop.points = way
  /-- The dropped points of a stop are near its kept point. -/
  near : ∀ stop ∈ stops, ∀ p ∈ stop.dropped, stop.kept.isNear p = true
  /-- No point that is kept is near the one kept before it. -/
  apart : (stops.map Stop.kept).IsChain fun p q => p.isNear q = false

variable {points way : List Point} {kept other p q : Point}

theorem thinAfter_sublist (kept : Point) (way : List Point) :
    (thinAfter kept way).Sublist way := by
  induction way generalizing kept with
  | nil => exact .slnil
  | cons p rest induction =>
      rw [thinAfter]
      split
      · exact (induction kept).cons p
      · exact (induction p).cons_cons p

/-- The first point is kept, and then thinning goes on as if it came once more. -/
theorem thin_eq (starts : way.head? = some p) (near : p.isNear p = true) :
    thin way = p :: thinAfter p way := by
  obtain ⟨rest, rfl⟩ := List.head?_eq_some_iff.mp starts
  rw [thin, thinAfter, if_pos near]

theorem lastKept_mem (ofKept : kept ∈ points) (ofWay : way ⊆ points) :
    lastKept kept way ∈ points :=
  List.cons_subset.mpr ⟨ofKept, List.Subset.trans (thinAfter_sublist kept way).subset ofWay⟩
    List.getLastD_mem_cons

/-- Thinning goes on from the last point kept. -/
theorem thinAfter_append (kept : Point) (way more : List Point) :
    thinAfter kept (way ++ more) = thinAfter kept way ++ thinAfter (lastKept kept way) more := by
  induction way generalizing kept with
  | nil => rfl
  | cons p rest induction =>
      rw [List.cons_append, lastKept, thinAfter, thinAfter]
      split
      · exact induction kept
      · rw [induction p, List.cons_append, List.getLastD_cons, lastKept]

namespace Separated

variable (separated : Separated points)

include separated

theorem symm (ofP : p ∈ points) (ofQ : q ∈ points) (near : p.isNear q = true) :
    q.isNear p = true :=
  separated.shared p ofP q ofQ p ofP near (separated.self p ofP)

/-- Points at one place are near the same points. -/
theorem isNear_congr (ofKept : kept ∈ points) (ofOther : other ∈ points)
    (near : kept.isNear other = true) (ofP : p ∈ points) : kept.isNear p = other.isNear p := by
  rw [Bool.eq_iff_iff]
  exact ⟨separated.shared kept ofKept other ofOther p ofP near,
    separated.shared other ofOther kept ofKept p ofP (separated.symm ofKept ofOther near)⟩

/-- Thinning goes on alike from points at one place. -/
theorem thinAfter_congr (ofKept : kept ∈ points) (ofOther : other ∈ points)
    (near : kept.isNear other = true) (ofWay : way ⊆ points) :
    thinAfter kept way = thinAfter other way := by
  induction way with
  | nil => rfl
  | cons p rest induction =>
      obtain ⟨ofP, ofRest⟩ := List.cons_subset.mp ofWay
      rw [thinAfter, thinAfter, separated.isNear_congr ofKept ofOther near ofP, induction ofRest]

/-- The last point kept is at the place of the last point. -/
theorem near_last (ofKept : kept ∈ points) (ofWay : way ⊆ points)
    (near : kept.isNear other = true) :
    (lastKept kept way).isNear (way.getLastD other) = true := by
  induction way generalizing kept other with
  | nil => exact near
  | cons p rest induction =>
      obtain ⟨ofP, ofRest⟩ := List.cons_subset.mp ofWay
      rw [lastKept, thinAfter, List.getLastD_cons]
      split
      · exact induction ofKept ofRest ‹_›
      · rw [List.getLastD_cons]
        exact induction ofP ofRest (separated.self p ofP)

end Separated

section

variable {stop : Stop} {stops : List Stop} {dropped more : List Point}

theorem isNear_comm (p q : Point) : p.isNear q = q.isNear p := by
  rw [isNear, isNear, Decimal.abs_sub_comm p.longitude, Decimal.abs_sub_comm p.latitude]

theorem thinAfter_of_near (near : ∀ p ∈ dropped, kept.isNear p = true) :
    thinAfter kept dropped = [] := by
  induction dropped with
  | nil => rfl
  | cons p rest induction =>
      obtain ⟨here, later⟩ := List.forall_mem_cons.mp near
      rw [thinAfter, if_pos here, induction later]

theorem thinAfter_append_of_near (near : ∀ p ∈ dropped, kept.isNear p = true) :
    thinAfter kept (dropped ++ more) = thinAfter kept more := by
  rw [thinAfter_append, lastKept, thinAfter_of_near near]
  rfl

theorem thinAfter_of_divides (divides : Divides (stop :: stops) (stop.points ++ way)) :
    thinAfter stop.kept (stop.dropped ++ way) = stops.map Stop.kept := by
  obtain ⟨whole, near, apart⟩ := divides
  obtain rfl : stops.flatMap Stop.points = way := List.append_cancel_left whole
  clear whole
  induction stops generalizing stop with
  | nil =>
      rw [thinAfter_append_of_near (near stop List.mem_cons_self)]
      rfl
  | cons next rest induction =>
      obtain ⟨nearHere, nearLater⟩ := List.forall_mem_cons.mp near
      obtain ⟨far, apart⟩ := List.isChain_cons_cons.mp apart
      rw [thinAfter_append_of_near nearHere, List.flatMap_cons, Stop.points, List.cons_append,
        thinAfter, if_neg (Bool.eq_false_iff.mp far), induction nearLater apart, List.map_cons]

/-- Thinning keeps the first point of each stop. -/
theorem thin_of_divides (divides : Divides stops way) : thin way = stops.map Stop.kept := by
  cases stops with
  | nil =>
      obtain rfl : [] = way := divides.whole
      rfl
  | cons stop rest =>
      obtain rfl := divides.whole
      exact congrArg (stop.kept :: ·) (thinAfter_of_divides divides)

/-- A point near the one kept last is dropped. -/
theorem Divides.drop (divides : Divides (⟨kept, dropped⟩ :: stops) (kept :: way))
    (near : kept.isNear p = true) :
    Divides (⟨kept, p :: dropped⟩ :: stops) (kept :: p :: way) where
  whole := by
    have whole := List.cons.inj divides.whole
    exact congrArg (kept :: p :: ·) whole.2
  near := by
    obtain ⟨here, later⟩ := List.forall_mem_cons.mp divides.near
    exact List.forall_mem_cons.mpr ⟨List.forall_mem_cons.mpr ⟨near, here⟩, later⟩
  apart := divides.apart

/-- A point that is not near the one kept last begins another stop. -/
theorem Divides.keep (divides : Divides (⟨p, dropped⟩ :: stops) (p :: way))
    (far : kept.isNear p = false) :
    Divides (.bare kept :: ⟨p, dropped⟩ :: stops) (kept :: p :: way) where
  whole := congrArg (kept :: ·) divides.whole
  near := List.forall_mem_cons.mpr ⟨List.forall_mem_nil _, divides.near⟩
  apart := List.isChain_cons_cons.mpr ⟨far, divides.apart⟩

theorem exists_divides_cons (kept : Point) (way : List Point) :
    ∃ dropped stops, Divides (⟨kept, dropped⟩ :: stops) (kept :: way) := by
  induction way generalizing kept with
  | nil => exact ⟨[], [], rfl, by simp, List.isChain_singleton _⟩
  | cons p rest induction =>
      cases near : kept.isNear p with
      | true =>
          obtain ⟨dropped, stops, divides⟩ := induction kept
          exact ⟨p :: dropped, stops, divides.drop near⟩
      | false =>
          obtain ⟨dropped, stops, divides⟩ := induction p
          exact ⟨[], ⟨p, dropped⟩ :: stops, divides.keep near⟩

theorem exists_divides (way : List Point) : ∃ stops, Divides stops way := by
  cases way with
  | nil => exact ⟨[], rfl, List.forall_mem_nil _, List.isChain_nil⟩
  | cons kept rest =>
      obtain ⟨dropped, stops, divides⟩ := exists_divides_cons kept rest
      exact ⟨_, divides⟩

/-- A way whose neighbours are not near each other is divided without dropping a point. -/
theorem divides_bare (apart : way.IsChain fun p q => p.isNear q = false) :
    Divides (way.map Stop.bare) way where
  whole := by simp [List.flatMap_map, Stop.bare, Stop.points]
  near := by simp [Stop.bare]
  apart := by simpa [Stop.bare, Function.comp_def] using apart

end

theorem thin_sublist (way : List Point) : (thin way).Sublist way := by
  cases way with
  | nil => exact .slnil
  | cons p rest => exact (thinAfter_sublist p rest).cons_cons p

theorem head?_thin (way : List Point) : (thin way).head? = way.head? := by
  cases way <;> rfl

/-- A way is thinned to a part of it that begins where the way begins and in which no neighbours are
near each other.  It consists of the kept points of stops, so that each dropped point is near the
last point kept before it.  Thinning once more changes nothing. -/
theorem thin_keeps_stops (way : List Point) :
    (thin way).Sublist way ∧ (thin way).head? = way.head? ∧
      ((thin way).IsChain fun p q => p.isNear q = false ∧ q.isNear p = false) ∧
      (∃ stops, Divides stops way ∧ thin way = stops.map Stop.kept) ∧
      thin (thin way) = thin way := by
  obtain ⟨stops, divides⟩ := exists_divides way
  have kept := thin_of_divides divides
  have apart : (thin way).IsChain fun p q => p.isNear q = false := kept ▸ divides.apart
  refine ⟨thin_sublist way, head?_thin way, ?_, ⟨stops, divides, kept⟩, ?_⟩
  · exact apart.imp fun p q far => ⟨far, isNear_comm p q ▸ far⟩
  · rw [thin_of_divides (divides_bare apart), List.map_map]
    exact List.map_id _

/-- The third point is near the second one, but not near the first; what is not a number is near
nothing, not even itself. -/
example : thin [⟨0, 0⟩, ⟨6e-10, 0⟩, ⟨12e-10, 0⟩, ⟨.nan, 0⟩, ⟨.nan, 0⟩] =
    [⟨0, 0⟩, ⟨12e-10, 0⟩, ⟨.nan, 0⟩, ⟨.nan, 0⟩] := by decide +kernel

end JourneyCost.Point
