import JourneyCost.Decimal.Numeral
import JourneyCost.Geo.Distance
import JourneyCost.Proofs.Decimal.Order
import JourneyCost.Proofs.Fault

/-!
# Distances

A distance fails only where a coordinate is outside the domain of the haversine formula.  The least
distance to a list of points is that of a point with none nearer, or infinite, so a route with more
vertices is never farther away.
-/

namespace JourneyCost.Geo

open Decimal (rank)

variable {fault : Fault}

theorem sine_eq_error {x : Float} (failed : sine x = .error fault) : fault = .malformed := by
  unfold sine at failed
  split at failed
  · exact (Except.error.inj failed).symm
  · cases failed

theorem cosine_eq_error {x : Float} (failed : cosine x = .error fault) : fault = .malformed := by
  unfold cosine at failed
  split at failed
  · exact (Except.error.inj failed).symm
  · cases failed

theorem root_eq_error {x : Float} (failed : root x = .error fault) : fault = .malformed := by
  unfold root at failed
  split at failed
  · exact (Except.error.inj failed).symm
  · cases failed

theorem haversine_eq_error {lat₁ lon₁ lat₂ lon₂ : Float}
    (failed : haversine lat₁ lon₁ lat₂ lon₂ = .error fault) : fault = .malformed := by
  simp only [haversine, bind_eq_error, pure, Except.pure, reduceCtorEq, and_false, exists_false,
    or_false] at failed
  rcases failed with halfLat | ⟨_, -, cos₁ | ⟨_, -, cos₂ | ⟨_, -, halfLon | ⟨_, -, chord⟩⟩⟩⟩
  · exact sine_eq_error halfLat
  · exact cosine_eq_error cos₁
  · exact cosine_eq_error cos₂
  · exact sine_eq_error halfLon
  · rcases chord with near | ⟨_, -, far⟩
    · exact root_eq_error near
    · exact root_eq_error far

theorem leastFrom_eq_error {measure : Point → Except Fault Float} {best : Float}
    {points : List Point} (failed : leastFrom measure best points = .error fault) :
    ∃ p ∈ points, measure p = .error fault := by
  induction points generalizing best with
  | nil => cases failed
  | cons p rest induction =>
      rw [leastFrom, bind_eq_error] at failed
      rcases failed with here | ⟨d, -, later⟩
      · exact ⟨p, List.mem_cons_self, here⟩
      · obtain ⟨q, member, failed⟩ := induction later
        exact ⟨q, List.mem_cons_of_mem p member, failed⟩

theorem distanceToRoute_eq_error {place : Point} {points : List Point}
    (failed : distanceToRoute place points = .error fault) : fault = .malformed := by
  obtain ⟨p, -, failed⟩ := leastFrom_eq_error failed
  exact haversine_eq_error failed

/-- A distance that is the least of a bound and the distances of points. -/
structure Nearest (measure : Point → Except Fault Float) (bound : Float) (points : List Point)
    (d : Float) : Prop where
  /-- It is a number. -/
  defined : d ≠ Float.nan
  /-- It is the bound or the distance of a point. -/
  attained : d = bound ∨ ∃ p ∈ points, measure p = .ok d
  /-- It is not above the bound. -/
  bounded : rank d ≤ rank bound
  /-- It is not above the distance of any point. -/
  least : ∀ p ∈ points, ∃ e, measure p = .ok e ∧ rank d ≤ rank e

variable {measure : Point → Except Fault Float} {bound d e : Float} {points more : List Point}

/-- The lesser of a distance and a bound, for which an undefined distance is passed over. -/
theorem lesser_ne_nan (defined : bound ≠ Float.nan) :
    (if e < bound then e else bound) ≠ Float.nan := by
  split
  · rename_i less
    rintro rfl
    exact absurd (Decimal.lt_iff.mp less).1 (not_lt_of_ge Decimal.rank_le_nan)
  · exact defined

theorem rank_lesser_le (defined : bound ≠ Float.nan) :
    rank (if e < bound then e else bound) ≤ rank bound ∧
      rank (if e < bound then e else bound) ≤ rank e := by
  split
  · rename_i less
    exact ⟨(Decimal.lt_iff.mp less).1.le, le_rfl⟩
  · rename_i notLess
    exact ⟨le_rfl, not_lt.mp fun below => notLess (Decimal.lt_iff.mpr ⟨below, defined⟩)⟩

theorem nearest_leastFrom (defined : bound ≠ Float.nan)
    (found : leastFrom measure bound points = .ok d) : Nearest measure bound points d := by
  induction points generalizing bound with
  | nil =>
      obtain rfl : bound = d := Except.ok.inj found
      exact ⟨defined, .inl rfl, le_rfl, List.forall_mem_nil _⟩
  | cons p rest induction =>
      obtain ⟨e, here, found⟩ := bind_eq_ok.mp found
      have later := induction (lesser_ne_nan defined) found
      obtain ⟨belowBound, belowHere⟩ := rank_lesser_le (e := e) defined
      refine ⟨later.defined, ?_, later.bounded.trans belowBound, List.forall_mem_cons.mpr
        ⟨⟨e, here, later.bounded.trans belowHere⟩, later.least⟩⟩
      rcases later.attained with same | ⟨q, member, measured⟩
      · split at same
        · exact .inr ⟨p, List.mem_cons_self, here.trans (congrArg Except.ok same.symm)⟩
        · exact .inl same
      · exact .inr ⟨q, List.mem_cons_of_mem p member, measured⟩

theorem nearest_least (found : least measure points = .ok d) :
    Nearest measure Decimal.infinity points d := by
  have unbounded : Float.ofBits 0x7FF0000000000000 = Decimal.infinity := by decide +kernel
  rw [least, unbounded] at found
  exact nearest_leastFrom (by decide +kernel) found

/-- With more points the least distance is not greater. -/
theorem rank_least_le_of_subset (subset : points ⊆ more) (found : least measure points = .ok d)
    (foundMore : least measure more = .ok e) : rank e ≤ rank d := by
  have nearestMore := nearest_least foundMore
  rcases (nearest_least found).attained with rfl | ⟨p, member, measured⟩
  · exact nearestMore.bounded
  · obtain ⟨e', measured', le⟩ := nearestMore.least p (subset member)
    obtain rfl := Except.ok.inj (measured.symm.trans measured')
    exact le

theorem not_lt_iff_rank_le (defined : d ≠ Float.nan) : ¬ e < d ↔ rank d ≤ rank e := by
  rw [Decimal.lt_iff, and_iff_left defined, not_lt]

theorem exists_least (measured : ∀ p ∈ points, ∃ e, measure p = .ok e) :
    ∃ d, least measure points = .ok d := by
  cases found : least measure points with
  | ok d => exact ⟨d, rfl⟩
  | error fault =>
      obtain ⟨p, member, failed⟩ := leastFrom_eq_error found
      obtain ⟨e, here⟩ := measured p member
      cases failed.symm.trans here

/-- With more points, all of them measured, the least distance is not greater. -/
theorem exists_least_of_subset (found : least measure points = .ok d) (subset : points ⊆ more)
    (measured : ∀ p ∈ more, ∃ e, measure p = .ok e) :
    ∃ e, least measure more = .ok e ∧ ¬ d < e := by
  obtain ⟨e, foundMore⟩ := exists_least measured
  exact ⟨e, foundMore, (not_lt_iff_rank_le (nearest_least foundMore).defined).mpr
    (rank_least_le_of_subset subset found foundMore)⟩

/-- In another order of the points the least distance is neither less nor greater. -/
theorem exists_least_of_perm {reordered : List Point} (found : least measure points = .ok d)
    (same : reordered.Perm points) (measured : ∀ p ∈ points, ∃ e, measure p = .ok e) :
    ∃ e, least measure reordered = .ok e ∧ ¬ e < d ∧ ¬ d < e := by
  obtain ⟨e, foundAgain, notLess⟩ := exists_least_of_subset found same.symm.subset
    fun p member => measured p (same.subset member)
  exact ⟨e, foundAgain, (not_lt_iff_rank_le (nearest_least found).defined).mpr
    (rank_least_le_of_subset same.subset foundAgain found), notLess⟩

/-- The distance from a route whose points are all measured is that of a point with none nearer, or
infinite.  It depends on the order of the points in the sign of a zero at most, and with more points
it is not greater. -/
theorem distanceToRoute_of_measured {place : Point}
    (measured : ∀ p ∈ points, ∃ e, distance place p = .ok e) :
    ∃ d, distanceToRoute place points = .ok d ∧
      Nearest (distance place) Decimal.infinity points d ∧
      (∀ reordered, reordered.Perm points →
        ∃ e, distanceToRoute place reordered = .ok e ∧ ¬ e < d ∧ ¬ d < e) ∧
      ∀ more, points ⊆ more → (∀ p ∈ more, ∃ e, distance place p = .ok e) →
        ∃ e, distanceToRoute place more = .ok e ∧ ¬ d < e := by
  obtain ⟨d, found⟩ := exists_least measured
  exact ⟨d, found, nearest_least found, fun _ same => exists_least_of_perm found same measured,
    fun _ subset measuredMore => exists_least_of_subset found subset measuredMore⟩

/-- If the distances of all points are measured, however this is done, the least one is a number; it
is infinite or the distance of a point, and no point is nearer.  In another order of the points it
is neither less nor greater, and with more points it is not greater. -/
theorem least_of_measured (measured : ∀ p ∈ points, ∃ e, measure p = .ok e) :
    ∃ d, least measure points = .ok d ∧ d.isNaN = false ∧
      (d = Decimal.infinity ∨ ∃ p ∈ points, measure p = .ok d) ∧
      (∀ p ∈ points, ∀ e, measure p = .ok e → ¬ e < d) ∧
      (∀ reordered, reordered.Perm points →
        ∃ e, least measure reordered = .ok e ∧ ¬ e < d ∧ ¬ d < e) ∧
      ∀ more, points ⊆ more → (∀ p ∈ more, ∃ e, measure p = .ok e) →
        ∃ e, least measure more = .ok e ∧ ¬ d < e := by
  obtain ⟨d, found⟩ := exists_least measured
  have nearest := nearest_least found
  refine ⟨d, found, ?_, nearest.attained, ?_, fun reordered same =>
    exists_least_of_perm found same measured, fun more subset measuredMore =>
    exists_least_of_subset found subset measuredMore⟩
  · rw [Float.isNaN_eq_decide_eq_nan, decide_eq_false_iff_not]
    exact nearest.defined
  · intro p member e here
    obtain ⟨e', here', le⟩ := nearest.least p member
    obtain rfl := Except.ok.inj (here.symm.trans here')
    exact (not_lt_iff_rank_le nearest.defined).mpr le

/-- Points on one meridian as they are seen from the equator; where the first one is, is unknown. -/
theorem least_of_measured_meridian :
    let measure : Point → Except Fault Float := fun p => .ok p.latitude.abs
    let points : List Point := [⟨77, .nan⟩, ⟨77, -3⟩, ⟨77, 2⟩]
    (∀ p ∈ points, ∃ e, measure p = .ok e) ∧ least measure points = .ok 2 ∧
      (∀ p ∈ points, ∀ e, measure p = .ok e → ¬ e < 2) ∧
      (∃ e, least measure points.reverse = .ok e ∧ ¬ e < 2 ∧ ¬ 2 < e) ∧
      ∃ e, least measure (⟨77, 1⟩ :: points) = .ok e ∧ ¬ 2 < e := by
  intro measure points
  have measured (all : List Point) : ∀ p ∈ all, ∃ e, measure p = .ok e := fun p _ => ⟨_, rfl⟩
  have two : least measure points = .ok 2 := toOption_eq_some_iff.mp (by decide +kernel)
  obtain ⟨d, found, -, -, nearest, reordered, more⟩ := least_of_measured (measured points)
  obtain rfl : 2 = d := Except.ok.inj (two.symm.trans found)
  exact ⟨measured points, two, nearest, reordered _ (List.reverse_perm points),
    more _ (List.subset_cons_self _ _) (measured _)⟩

end JourneyCost.Geo
