import JourneyCost.Proofs.Polyline.Grammar
import Mathlib

/-!
# Polylines that overrun

Decoding under several precisions fails for one reason only: the text leads to a position that no
float can hold.  A number has at most five bits for each of its characters, so a short text never
does, and a malformed one that does not has no points.
-/

namespace JourneyCost.Polyline

/-- A text leads to a position that no float can hold. -/
def Overruns (encoded : String) : Prop :=
  ¬ IsBlank encoded.toList ∧
    ∃ position ∈ positions encoded.toList, ¬ (Fits position.1 ∧ Fits position.2)

/-- Lists of precisions to try: there is one, and all are usable. -/
structure AreUsable (precisions : List Int) : Prop where
  /-- There is a precision. -/
  filled : precisions ≠ []
  /-- Each precision is usable. -/
  usable : ∀ precision ∈ precisions, IsUsable precision

variable {encoded : String} {precisions : List Int} {fault : Fault} {points : List Point}

theorem overruns_of_decodeFirst (usable : ∀ precision ∈ precisions, IsUsable precision)
    (failed : decodeFirst encoded precisions = .error fault) :
    fault = .overflow ∧ Overruns encoded := by
  induction precisions with
  | nil => simp [decodeFirst] at failed
  | cons precision more induction =>
      obtain ⟨usableHere, usableMore⟩ := List.forall_mem_cons.mp usable
      rw [decodeFirst, bind_eq_error] at failed
      rcases failed with here | ⟨points, -, later⟩
      · exact (decode_eq_error_iff usableHere encoded fault).mp here
      · split at later
        · exact induction usableMore later
        · simp [pure, Except.pure] at later

theorem decodeFirst_eq_error_iff (usual : AreUsable precisions) :
    decodeFirst encoded precisions = .error fault ↔ fault = .overflow ∧ Overruns encoded := by
  constructor
  · exact overruns_of_decodeFirst usual.usable
  · intro overruns
    obtain ⟨precision, more, rfl⟩ := List.exists_cons_of_ne_nil usual.filled
    have usableHere := usual.usable precision List.mem_cons_self
    rw [decodeFirst, (decode_eq_error_iff usableHere encoded fault).mpr overruns, error_bind]

theorem isComplete_of_decodeFirst (usable : ∀ precision ∈ precisions, IsUsable precision)
    (decoded : decodeFirst encoded precisions = .ok points) (filled : points ≠ []) :
    IsComplete encoded.toList := by
  induction precisions with
  | nil =>
      obtain rfl : [] = points := Except.ok.inj decoded
      exact absurd rfl filled
  | cons precision more induction =>
      obtain ⟨usableHere, usableMore⟩ := List.forall_mem_cons.mp usable
      rw [decodeFirst, bind_eq_ok] at decoded
      obtain ⟨first, here, chosen⟩ := decoded
      split at chosen
      · exact induction usableMore chosen
      · obtain rfl : first = points := Except.ok.inj chosen
        exact (points_of_decode usableHere here).1.mp filled

theorem points_of_decodeFirst (usual : AreUsable precisions)
    (decoded : decodeFirst encoded precisions = .ok points) :
    points ≠ [] ↔ IsComplete encoded.toList := by
  constructor
  · exact isComplete_of_decodeFirst usual.usable decoded
  · intro complete
    obtain ⟨precision, more, rfl⟩ := List.exists_cons_of_ne_nil usual.filled
    rw [decodeFirst, bind_eq_ok] at decoded
    obtain ⟨first, here, chosen⟩ := decoded
    have filled :=
      (points_of_decode (usual.usable precision List.mem_cons_self) here).1.mpr complete
    rw [if_neg (mt List.isEmpty_iff.mp filled)] at chosen
    obtain rfl : first = points := Except.ok.inj chosen
    exact filled

/-- What makes a text malformed. -/
inductive IsMalformed (cs : List Char) : Prop
  /-- A character is below the first code. -/
  | low {c : Char} : c ∈ cs → c.toNat < 63 → IsMalformed cs
  /-- The text ends inside a number. -/
  | cut {c : Char} : cs.getLast? = some c → 94 < c.toNat → IsMalformed cs
  /-- A latitude has no longitude. -/
  | lone : ¬ Even (cs.countP closes) → IsMalformed cs

theorem isComplete_iff (cs : List Char) : IsComplete cs ↔ cs ≠ [] ∧ ¬ IsMalformed cs := by
  constructor
  · intro complete
    refine ⟨complete.filled, fun malformed => ?_⟩
    cases malformed with
    | low member low => exact absurd (complete.solid _ member) (Nat.not_le.mpr low)
    | cut last high => exact absurd (complete.closed _ last) (Nat.not_le.mpr high)
    | lone odd => exact odd complete.paired
  · rintro ⟨filled, sound⟩
    exact ⟨filled, fun c member => Nat.not_lt.mp fun low => sound (.low member low),
      fun c last => Nat.not_lt.mp fun high => sound (.cut last high),
      by_contra fun odd => sound (.lone odd)⟩

/-- The numbers of a text add up to less than the weight of a number as long as the text. -/
theorem sum_readNumbers_lt {read : Progress} (begun : read.sum < read.weight) (cs : List Char) :
    (readNumbers read cs).1.sum < read.weight * 32 ^ cs.length := by
  induction cs generalizing read with
  | nil => simpa [readNumbers] using Nat.zero_lt_of_lt begun
  | cons c rest induction =>
      have group : (c.toNat - offset) % 32 * read.weight ≤ 31 * read.weight :=
        Nat.mul_le_mul_right _ (by omega)
      have length :
          read.weight * 32 ^ (c :: rest).length = read.weight * 32 * 32 ^ rest.length := by
        rw [List.length_cons, Nat.pow_succ', Nat.mul_assoc]
      rw [readNumbers, length]
      split
      · -- The number that ends here and those after it are each less than their own weight.
        have start : Progress.start.sum < Progress.start.weight := Nat.one_pos
        have later : (readNumbers .start rest).1.sum < 32 ^ rest.length :=
          lt_of_lt_of_eq (induction start) (Nat.one_mul _)
        have here : read.sum + (c.toNat - offset) % 32 * read.weight < read.weight * 32 := by omega
        have product := Nat.add_sub_one_le_mul (Nat.ne_zero_of_lt here) (Nat.ne_zero_of_lt later)
        simp only [List.sum_cons]
        omega
      · exact induction (by simp only; omega)

/-- How far steps lead at most. -/
def reach (steps : List (Int × Int)) : Nat :=
  (steps.map fun step => step.1.natAbs + step.2.natAbs).sum

theorem natAbs_unfold_le (n : Nat) : (unfold n).natAbs ≤ n := by
  unfold unfold
  split
  · rename_i odd
    rw [beq_iff_eq] at odd
    omega
  · omega

theorem reach_pairUp_le (numbers : List Nat) : reach (pairUp numbers).1 ≤ numbers.sum := by
  fun_induction pairUp numbers with
  | case1 lat lon rest pairs whole pairing induction =>
      rw [pairing] at induction
      have latitude := natAbs_unfold_le lat
      have longitude := natAbs_unfold_le lon
      simp only [reach, List.map_cons, List.sum_cons] at induction ⊢
      omega
  | case2 rest single => exact Nat.zero_le _

theorem natAbs_le_of_mem_accumulate {lat lon : Int} {steps : List (Int × Int)}
    {position : Int × Int} (member : position ∈ accumulate lat lon steps) :
    position.1.natAbs ≤ lat.natAbs + reach steps ∧
      position.2.natAbs ≤ lon.natAbs + reach steps := by
  induction steps generalizing lat lon with
  | nil => exact absurd member List.not_mem_nil
  | cons step rest induction =>
      obtain ⟨dy, dx⟩ := step
      have far : reach ((dy, dx) :: rest) = dy.natAbs + dx.natAbs + reach rest := by
        simp [reach]
      rw [accumulate, List.mem_cons] at member
      rcases member with rfl | later
      · simp only
        omega
      · have bound := induction later
        omega

theorem not_overruns_of_length {encoded : String} (short : encoded.length < 205) :
    ¬ Overruns encoded := by
  rintro ⟨-, position, member, misfit⟩
  have bounds := natAbs_le_of_mem_accumulate member
  have sizes := reach_pairUp_le (readNumbers .start encoded.toList).1
  have start : Progress.start.sum < Progress.start.weight := Nat.one_pos
  have sum : (readNumbers .start encoded.toList).1.sum < 32 ^ encoded.toList.length :=
    lt_of_lt_of_eq (sum_readNumbers_lt start _) (Nat.one_mul _)
  have small : 32 ^ encoded.toList.length ≤ 32 ^ 204 :=
    Nat.pow_le_pow_right (by decide) (by rw [String.length_toList]; omega)
  have limit : 32 ^ 204 ≤ Decimal.overflowLimit := by decide +kernel
  simp only [Int.natAbs_zero, Nat.zero_add] at bounds
  exact misfit ⟨by simp only [Fits]; omega, by simp only [Fits]; omega⟩

/-- Decoding fails exactly if the text leads to a position that no float can hold, which a text of
less than 205 characters never does.  Any other text is decoded: a missing, an empty and a malformed
one to nothing, and one that is well formed to its points. -/
theorem decode_outcome {precision : Int} (usual : precision = 5 ∨ precision = 6)
    (encoded : Option String) :
    (∀ fault, decode precision (encoded.getD "") = .error fault ↔
        fault = .overflow ∧ Overruns (encoded.getD "")) ∧
      (¬ Overruns (encoded.getD "") → ∃ points,
        decode precision (encoded.getD "") = .ok points ∧
          (points = [] ↔ (encoded.getD "").toList = [] ∨ IsMalformed (encoded.getD "").toList)) ∧
      ((encoded.getD "").length < 205 → ¬ Overruns (encoded.getD "")) := by
  generalize encoded.getD "" = text
  have usable : IsUsable precision := by
    obtain rfl | rfl := usual <;> exact ⟨by decide, by decide⟩
  refine ⟨fun fault => decode_eq_error_iff usable text fault, fun fits => ?_,
    not_overruns_of_length⟩
  cases decoded : decode precision text with
  | error fault => exact absurd ((decode_eq_error_iff usable text fault).mp decoded).2 fits
  | ok points =>
      refine ⟨points, rfl, ?_⟩
      have filled := (points_of_decode usable decoded).1
      rw [isComplete_iff] at filled
      tauto

/-- A text that ends after a latitude. -/
theorem decode_outcome_lone :
    ¬ Overruns "_p~iF" ∧ IsMalformed "_p~iF".toList ∧ decode 5 "_p~iF" = .ok [] := by
  obtain ⟨-, decodes, short⟩ := decode_outcome (.inl (Eq.refl 5)) (some "_p~iF")
  have fits : ¬ Overruns "_p~iF" := short (by decide)
  have lone : IsMalformed "_p~iF".toList := .lone (by decide)
  obtain ⟨points, decoded, nothing⟩ := decodes fits
  rw [nothing.mpr (.inr lone)] at decoded
  exact ⟨fits, lone, decoded⟩

/-- A latitude of more than two hundred characters, a longitude, and a latitude without one: the
text is malformed, but the first position is too large. -/
theorem not_decode_of_overrun :
    ¬ ∀ (precision : Int) (encoded : Option String), precision = 5 ∨ precision = 6 →
      IsMalformed (encoded.getD "").toList → decode precision (encoded.getD "") = .ok [] := by
  intro total
  let cs := List.replicate 205 '~' ++ ['?', '?', '?']
  have solid : ∀ c ∈ cs, 63 ≤ c.toNat := by
    intro c member
    rcases List.mem_append.mp member with tilde | mark
    · obtain rfl := List.eq_of_mem_replicate tilde
      decide
    · obtain rfl : c = '?' := by simpa using mark
      decide
  have overruns : Overruns (String.ofList cs) := by
    rw [Overruns, String.toList_ofList]
    have far : ((positions cs).any fun position =>
        Decimal.overflowLimit ≤ position.1.natAbs) = true := by decide +kernel
    obtain ⟨position, member, beyond⟩ := List.any_eq_true.mp far
    have misfit : ¬ (Fits position.1 ∧ Fits position.2) := fun fits =>
      absurd fits.1 (Nat.not_lt.mpr (of_decide_eq_true beyond))
    have filled : cs ≠ [] := List.append_ne_nil_of_right_ne_nil _ (List.cons_ne_nil _ _)
    exact ⟨(not_isBlank_iff cs).mpr ⟨filled, solid⟩, position, member, misfit⟩
  have lone : IsMalformed (String.ofList cs).toList := by
    rw [String.toList_ofList]
    exact .lone (by decide +kernel)
  have usable : IsUsable 5 := ⟨by decide, by decide⟩
  have failed := (decode_eq_error_iff usable (String.ofList cs) .overflow).mpr ⟨rfl, overruns⟩
  have decoded : decode 5 (String.ofList cs) = .ok [] := total 5 (some _) (.inl rfl) lone
  rw [decoded] at failed
  cases failed

end JourneyCost.Polyline
