import JourneyCost.Proofs.Polyline.Positions
import Mathlib.Algebra.Group.Nat.Even

/-!
# Texts that are polylines

Whether a text has points, and how many, is decided by its characters: how many of them close a
number, and whether the last one does.  The precision has no part in it, nor in whether a position
is too large.  So further precisions never change what the first one gives.
-/

namespace JourneyCost.Polyline

/-- Whether a character closes a number: its code is one of 63 to 94. -/
def closes (c : Char) : Bool := 63 ≤ c.toNat && c.toNat ≤ 94

/-- The texts that have points. -/
structure IsComplete (cs : List Char) : Prop where
  /-- There is a character. -/
  filled : cs ≠ []
  /-- No character is below the first code. -/
  solid : ∀ c ∈ cs, 63 ≤ c.toNat
  /-- The last character closes a number. -/
  closed : ∀ c, cs.getLast? = some c → c.toNat ≤ 94
  /-- Numbers come in pairs. -/
  paired : Even (cs.countP closes)

/-- The test of the reader agrees with the range of codes. -/
theorem group_lt_iff_closes {c : Char} (solid : 63 ≤ c.toNat) :
    c.toNat - offset < 32 ↔ closes c = true := by
  simp only [closes, offset, Bool.and_eq_true, decide_eq_true_eq]
  omega

theorem length_readNumbers (read : Progress) {cs : List Char} (solid : ∀ c ∈ cs, 63 ≤ c.toNat) :
    (readNumbers read cs).1.length = cs.countP closes := by
  induction cs generalizing read with
  | nil => rfl
  | cons c rest induction =>
      obtain ⟨high, solidRest⟩ := List.forall_mem_cons.mp solid
      by_cases last : closes c = true
      · simp only [readNumbers, if_pos ((group_lt_iff_closes high).mpr last), List.length_cons,
          induction _ solidRest, List.countP_cons_of_pos last]
      · simp only [readNumbers, if_neg (mt (group_lt_iff_closes high).mp last),
          induction _ solidRest, List.countP_cons_of_neg last]

/-- A text that ends with a character is whole when that character closes a number.  The weight of
a number in progress is a multiple of 32, so it is never the weight before the first group. -/
theorem readNumbers_whole (read : Progress) {cs : List Char} (solid : ∀ c ∈ cs, 63 ≤ c.toNat)
    {c : Char} (last : cs.getLast? = some c) : (readNumbers read cs).2 = closes c := by
  induction cs generalizing read with
  | nil => simp at last
  | cons head rest induction =>
      obtain ⟨high, solidRest⟩ := List.forall_mem_cons.mp solid
      cases rest with
      | nil =>
          obtain rfl : head = c := by simpa using last
          by_cases closing : closes head = true
          · simp only [readNumbers, if_pos ((group_lt_iff_closes high).mpr closing), closing]
            rfl
          · simp only [readNumbers, if_neg (mt (group_lt_iff_closes high).mp closing),
              Bool.eq_false_iff.mpr closing, beq_eq_false_iff_ne]
            omega
      | cons second more =>
          rw [List.getLast?_cons_cons] at last
          rw [readNumbers]
          split <;> exact induction _ solidRest last

theorem length_pairUp (numbers : List Nat) :
    (pairUp numbers).1.length = numbers.length / 2 := by
  fun_induction pairUp numbers with
  | case1 lat lon rest pairs whole pairing induction =>
      rw [pairing] at induction
      simp only [List.length_cons] at induction ⊢
      omega
  | case2 rest single =>
      match rest with
      | [] => rfl
      | [_] => simp
      | lat :: lon :: more => exact absurd rfl (single lat lon more)

theorem pairUp_whole (numbers : List Nat) :
    (pairUp numbers).2 = true ↔ Even numbers.length := by
  fun_induction pairUp numbers with
  | case1 lat lon rest pairs whole pairing induction =>
      rw [pairing] at induction
      simp only [List.length_cons] at induction ⊢
      rw [induction]
      simp only [Nat.even_add_one, not_not]
  | case2 rest single =>
      match rest with
      | [] => simp
      | [_] => simp
      | lat :: lon :: more => exact absurd rfl (single lat lon more)

theorem length_accumulate (lat lon : Int) (steps : List (Int × Int)) :
    (accumulate lat lon steps).length = steps.length := by
  induction steps generalizing lat lon with
  | nil => rfl
  | cons step rest induction => simp only [accumulate, List.length_cons, induction]

theorem length_positions {cs : List Char} (solid : ∀ c ∈ cs, 63 ≤ c.toNat) :
    (positions cs).length = cs.countP closes / 2 := by
  rw [positions, length_accumulate, length_pairUp, length_readNumbers _ solid]

theorem endsWhole_iff {cs : List Char} (filled : cs ≠ []) (solid : ∀ c ∈ cs, 63 ≤ c.toNat) :
    endsWhole cs = true ↔ IsComplete cs := by
  have last := List.getLast?_eq_some_getLast filled
  have high := solid _ (List.getLast_mem filled)
  rw [endsWhole, Bool.and_eq_true, pairUp_whole, length_readNumbers _ solid,
    readNumbers_whole _ solid last]
  constructor
  · rintro ⟨closing, paired⟩
    refine ⟨filled, solid, ?_, paired⟩
    intro c isLast
    obtain rfl : cs.getLast filled = c := Option.some.inj (last.symm.trans isLast)
    exact of_decide_eq_true (Bool.and_eq_true_iff.mp closing).2
  · intro complete
    have low := complete.closed _ last
    exact ⟨by simp only [closes, high, low, decide_true, Bool.and_self], complete.paired⟩

theorem not_isBlank_iff (cs : List Char) :
    ¬ IsBlank cs ↔ cs ≠ [] ∧ ∀ c ∈ cs, 63 ≤ c.toNat := by
  simp only [IsBlank, not_or, not_exists, not_and, Nat.not_lt, ne_eq]
  rfl

theorem decode_eq_error_iff {precision : Int} (usable : IsUsable precision) (encoded : String)
    (fault : Fault) :
    decode precision encoded = .error fault ↔
      fault = .overflow ∧ ¬ IsBlank encoded.toList ∧
        ∃ position ∈ positions encoded.toList, ¬ (Fits position.1 ∧ Fits position.2) := by
  by_cases blank : IsBlank encoded.toList
  · simp [decode_of_isBlank precision blank, blank]
  · rw [decode_of_not_isBlank usable blank]
    split
    · rename_i fit
      simp only [reduceCtorEq, false_iff]
      rintro ⟨-, -, position, member, misfit⟩
      exact misfit (fit position member)
    · rename_i misfit
      simp only [not_forall] at misfit
      obtain ⟨position, member, tooLarge⟩ := misfit
      simp only [Except.error.injEq]
      exact ⟨fun same => ⟨same.symm, blank, position, member, tooLarge⟩, fun all => all.1.symm⟩

theorem points_of_decode {precision : Int} (usable : IsUsable precision) {encoded : String}
    {points : List Point} (decoded : decode precision encoded = .ok points) :
    (points ≠ [] ↔ IsComplete encoded.toList) ∧
      (IsComplete encoded.toList → points.length = encoded.toList.countP closes / 2) := by
  by_cases blank : IsBlank encoded.toList
  · rw [decode_of_isBlank precision blank] at decoded
    obtain rfl : [] = points := Except.ok.inj decoded
    have incomplete : ¬ IsComplete encoded.toList := fun complete =>
      (not_isBlank_iff _).mpr ⟨complete.filled, complete.solid⟩ blank
    exact ⟨by simp [incomplete], fun complete => absurd complete incomplete⟩
  · obtain ⟨filled, solid⟩ := (not_isBlank_iff _).mp blank
    rw [decode_of_not_isBlank usable blank] at decoded
    split at decoded
    · have given := Except.ok.inj decoded
      by_cases complete : IsComplete encoded.toList
      · rw [if_pos ((endsWhole_iff filled solid).mpr complete)] at given
        have count : points.length = encoded.toList.countP closes / 2 := by
          rw [← given, List.length_map, length_positions solid]
        refine ⟨⟨fun _ => complete, fun _ empty => ?_⟩, fun _ => count⟩
        have last := List.getLast?_eq_some_getLast filled
        have closing : closes (encoded.toList.getLast filled) = true := by
          simp only [closes, solid _ (List.getLast_mem filled), complete.closed _ last,
            decide_true, Bool.and_self]
        have positive : 0 < encoded.toList.countP closes :=
          List.countP_pos_iff.mpr ⟨_, List.getLast_mem filled, closing⟩
        obtain ⟨half, twice⟩ := complete.paired
        rw [empty, List.length_nil] at count
        omega
      · rw [if_neg (mt (endsWhole_iff filled solid).mp complete)] at given
        obtain rfl := given
        exact ⟨by simp [complete], fun whole => absurd whole complete⟩
    · simp at decoded

theorem decode_nil_of_decode_nil {first second : Int} (usableFirst : IsUsable first)
    (usableSecond : IsUsable second) {encoded : String}
    (nothing : decode first encoded = .ok []) : decode second encoded = .ok [] := by
  cases decoded : decode second encoded with
  | error fault =>
      have failed := (decode_eq_error_iff usableFirst encoded fault).mpr
        ((decode_eq_error_iff usableSecond encoded fault).mp decoded)
      rw [nothing] at failed
      exact absurd failed (by simp)
  | ok points =>
      by_contra some
      have complete := (points_of_decode usableSecond decoded).1.mp fun empty =>
        some (congrArg Except.ok empty)
      exact (points_of_decode usableFirst nothing).1.mpr complete rfl

theorem decodeFirst_of_decode_nil {encoded : String} {precisions : List Int}
    (nothing : ∀ precision ∈ precisions, decode precision encoded = .ok []) :
    decodeFirst encoded precisions = .ok [] := by
  induction precisions with
  | nil => rfl
  | cons precision more induction =>
      obtain ⟨here, later⟩ := List.forall_mem_cons.mp nothing
      rw [decodeFirst, here]
      exact induction later

/-- A text has points, and how many, by its characters alone; whether it overflows does not depend
on the precision; and the precisions after the first have no effect. -/
theorem decode_grammar (encoded : String) :
    (∀ precision, IsUsable precision → ∀ points, decode precision encoded = .ok points →
      (points ≠ [] ↔ IsComplete encoded.toList) ∧
        (IsComplete encoded.toList → points.length = encoded.toList.countP closes / 2)) ∧
    (∀ first second, IsUsable first → IsUsable second → ∀ fault,
      decode first encoded = .error fault ↔ decode second encoded = .error fault) ∧
    ∀ precision more, (∀ p ∈ precision :: more, IsUsable p) →
      decodeFirst encoded (precision :: more) = decode precision encoded := by
  refine ⟨fun precision usable points => points_of_decode usable, ?_, ?_⟩
  · intro first second usableFirst usableSecond fault
    rw [decode_eq_error_iff usableFirst, decode_eq_error_iff usableSecond]
  · intro precision more usable
    obtain ⟨usableHere, usableMore⟩ := List.forall_mem_cons.mp usable
    rw [decodeFirst]
    cases decoded : decode precision encoded with
    | error fault => rfl
    | ok points =>
        cases points with
        | cons point rest => rfl
        | nil =>
            exact decodeFirst_of_decode_nil fun p member =>
              decode_nil_of_decode_nil usableHere (usableMore p member) decoded

/-- One point under either precision, and the second precision is not needed. -/
theorem decode_grammar_single :
    decode 5 "_p~iF~ps|U" = .ok [⟨-120.2, 38.5⟩] ∧ IsComplete "_p~iF~ps|U".toList ∧
      "_p~iF~ps|U".toList.countP closes / 2 = 1 ∧
      decodeFirst "_p~iF~ps|U" [6, 5] = decode 6 "_p~iF~ps|U" := by
  have five : IsUsable 5 := ⟨by decide, by decide⟩
  have six : IsUsable 6 := ⟨by decide, by decide⟩
  have decoded : decode 5 "_p~iF~ps|U" = .ok [⟨-120.2, 38.5⟩] := by decide +kernel
  obtain ⟨points, -, more⟩ := decode_grammar "_p~iF~ps|U"
  obtain ⟨complete, count⟩ := points 5 five _ decoded
  have whole := complete.mp (by simp)
  exact ⟨decoded, whole, (count whole).symm, more 6 [5] (by simp [five, six])⟩

end JourneyCost.Polyline
