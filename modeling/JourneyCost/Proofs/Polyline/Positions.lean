import JourneyCost.Polyline
import Mathlib.Data.List.Basic

/-!
# The positions of a polyline

Under a usable precision, decoding is a choice between three answers: nothing, a point for each
position, or an overflow.  The choice is made by the text alone; the precision only scales.
-/

namespace JourneyCost.Polyline

/-- Precisions whose power of ten is a finite float. -/
def IsUsable (precision : Int) : Prop := 0 ≤ precision ∧ precision ≤ 308

/-- Units to a degree under a usable precision. -/
def unitsOf (precision : Int) : Float :=
  Decimal.nearest false (Decimal.tenTo precision.toNat) 1

/-- Numbers of units that a float can hold. -/
def Fits (n : Int) : Prop := n.natAbs < Decimal.overflowLimit

instance (n : Int) : Decidable (Fits n) := inferInstanceAs (Decidable (_ < _))

/-- The float nearest to a number of units, divided by the units of a degree. -/
def inDegrees (precision n : Int) : Float :=
  Decimal.nearest (n < 0) n.natAbs 1 / unitsOf precision

/-- The point at a position, latitude first. -/
def pointAt (precision : Int) (position : Int × Int) : Point :=
  ⟨inDegrees precision position.2, inDegrees precision position.1⟩

private theorem tenTo_usable : ∀ digits < 309,
    Decimal.tenTo digits < Decimal.overflowLimit ∧
      (Decimal.nearest false (Decimal.tenTo digits) 1 == 0) = false := by
  decide +kernel

theorem unitsPerDegree_of_isUsable {precision : Int} (usable : IsUsable precision) :
    unitsPerDegree precision = .ok (unitsOf precision) := by
  obtain ⟨nonnegative, bounded⟩ := usable
  have finite := (tenTo_usable precision.toNat (by omega)).1
  have positive : ¬ ((Decimal.tenTo precision.toNat : Nat) : Int) < 0 := by omega
  simp only [unitsPerDegree, if_neg (by omega : ¬ precision < 0), Decimal.floatOfInt?,
    Int.natAbs_natCast, if_neg (Nat.not_le.mpr finite), positive, decide_false]
  rfl

theorem unitsOf_ne_zero {precision : Int} (usable : IsUsable precision) :
    (unitsOf precision == 0) = false := by
  obtain ⟨nonnegative, bounded⟩ := usable
  exact (tenTo_usable precision.toNat (by omega)).2

theorem degrees_unitsOf {precision : Int} (usable : IsUsable precision) (n : Int) :
    degrees (unitsOf precision) n =
      if Fits n then .ok (inDegrees precision n) else .error .overflow := by
  unfold degrees Decimal.floatOfInt?
  by_cases fits : Fits n
  · rw [if_pos fits, if_neg (Nat.not_le.mpr fits)]
    simp [unitsOf_ne_zero usable, inDegrees, bind, Except.bind, pure, Except.pure]
  · rw [if_neg fits, if_pos (Nat.not_lt.mp fits)]
    simp [bind, Except.bind]

/-- A reading of items that all fit gives all values; one that does not fit ends it. -/
theorem mapM_ite {α β : Type} {fits : α → Prop} [DecidablePred fits] (value : α → β)
    (fault : Fault) (items : List α) :
    items.mapM (fun item => if fits item then Except.ok (value item) else .error fault) =
      if ∀ item ∈ items, fits item then .ok (items.map value) else .error fault := by
  induction items with
  | nil => rfl
  | cons item rest induction =>
      rw [List.mapM_cons, induction]
      by_cases itemFits : fits item
      · by_cases restFits : ∀ item ∈ rest, fits item
        · rw [if_pos itemFits, if_pos restFits,
            if_pos (List.forall_mem_cons.mpr ⟨itemFits, restFits⟩)]
          rfl
        · rw [if_pos itemFits, if_neg restFits,
            if_neg fun all => restFits (List.forall_mem_cons.mp all).2]
          rfl
      · rw [if_neg itemFits, if_neg fun all => itemFits (List.forall_mem_cons.mp all).1]
        rfl

theorem toPoints_unitsOf {precision : Int} (usable : IsUsable precision)
    (positions : List (Int × Int)) :
    toPoints (unitsOf precision) positions =
      if ∀ position ∈ positions, Fits position.1 ∧ Fits position.2 then
        .ok (positions.map (pointAt precision))
      else .error .overflow := by
  have step : (fun position : Int × Int => do
      let y ← degrees (unitsOf precision) position.1
      let x ← degrees (unitsOf precision) position.2
      return Point.mk x y) =
      fun position => if Fits position.1 ∧ Fits position.2 then
        .ok (pointAt precision position) else .error .overflow := by
    funext ⟨lat, lon⟩
    simp only [degrees_unitsOf usable, bind, Except.bind, pure, Except.pure]
    by_cases latFits : Fits lat
    · by_cases lonFits : Fits lon
      · simp only [latFits, lonFits, and_self, if_true, pointAt]
      · simp only [latFits, lonFits, and_false, if_true, if_false]
    · simp only [latFits, false_and, if_false]
  rw [← mapM_ite, ← step]
  rfl

/-- The positions that the complete pairs of numbers in a text lead to. -/
def positions (cs : List Char) : List (Int × Int) :=
  accumulate 0 0 (pairUp (readNumbers .start cs).1).1

/-- Whether a text ends where a pair of numbers ends. -/
def endsWhole (cs : List Char) : Bool :=
  (readNumbers .start cs).2 && (pairUp (readNumbers .start cs).1).2

/-- Texts without characters, or with one below the first code. -/
def IsBlank (cs : List Char) : Prop := cs = [] ∨ ∃ c ∈ cs, c.toNat < offset

theorem decode_of_isBlank (precision : Int) {encoded : String} (blank : IsBlank encoded.toList) :
    decode precision encoded = .ok [] := by
  have refused : (encoded.toList.isEmpty || encoded.toList.any (·.toNat < offset)) = true := by
    obtain empty | ⟨c, member, low⟩ := blank
    · simp [empty]
    · simp only [Bool.or_eq_true, List.any_eq_true, decide_eq_true_eq]
      exact .inr ⟨c, member, low⟩
  unfold decode
  simp only [refused, if_true]
  rfl

theorem decode_of_not_isBlank {precision : Int} (usable : IsUsable precision) {encoded : String}
    (solid : ¬ IsBlank encoded.toList) :
    decode precision encoded =
      if ∀ position ∈ positions encoded.toList, Fits position.1 ∧ Fits position.2 then
        .ok (if endsWhole encoded.toList then
          (positions encoded.toList).map (pointAt precision) else [])
      else .error .overflow := by
  have accepted : (encoded.toList.isEmpty || encoded.toList.any (·.toNat < offset)) = false := by
    rw [Bool.eq_false_iff]
    intro refused
    simp only [Bool.or_eq_true, List.isEmpty_iff, List.any_eq_true, decide_eq_true_eq] at refused
    exact solid refused
  unfold decode
  simp only [accepted, unitsPerDegree_of_isUsable usable]
  change (do
    let points ← toPoints (unitsOf precision) (positions encoded.toList)
    return if endsWhole encoded.toList then points else []) = _
  rw [toPoints_unitsOf usable]
  split <;> rfl

end JourneyCost.Polyline
