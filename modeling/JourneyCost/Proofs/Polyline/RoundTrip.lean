import JourneyCost.Proofs.Polyline.Positions
import Mathlib.Tactic.Ring

/-!
# Reading back an encoded polyline

Decoding an encoded list of positions gives a point for each of them.  The groups of one number
are read back in front of any further text; a sign that was folded is unfolded; the running sums
of the differences are the positions.
-/

namespace JourneyCost.Polyline

theorem toNat_ofNat_add_offset {group : Nat} (small : group < 64) :
    (Char.ofNat (group + offset)).toNat = group + offset := by
  have valid : (group + offset).isValidChar := .inl (by simp only [offset]; omega)
  rw [Char.ofNat, dif_pos valid]
  rfl

/-- A reading in progress that meets an encoded number adds it at its weight and starts anew. -/
theorem readNumbers_encodeNat (n sum weight : Nat) (rest : List Char) :
    readNumbers ⟨sum, weight⟩ (encodeNat n ++ rest) =
      ((sum + n * weight) :: (readNumbers .start rest).1, (readNumbers .start rest).2) := by
  fun_induction encodeNat n generalizing sum weight with
  | case1 n small =>
      have digit : (Char.ofNat (n + offset)).toNat - offset = n := by
        rw [toNat_ofNat_add_offset (by omega), Nat.add_sub_cancel]
      simp only [List.singleton_append, readNumbers, digit, if_pos small, Nat.mod_eq_of_lt small]
  | case2 n large induction =>
      have digit : (Char.ofNat (n % 32 + 32 + offset)).toNat - offset = n % 32 + 32 := by
        rw [toNat_ofNat_add_offset (by omega), Nat.add_sub_cancel]
      have continued : ¬ n % 32 + 32 < 32 := by omega
      have low : (n % 32 + 32) % 32 = n % 32 := by omega
      have total : sum + n % 32 * weight + n / 32 * (weight * 32) = sum + n * weight := by
        calc
          sum + n % 32 * weight + n / 32 * (weight * 32) =
              sum + (32 * (n / 32) + n % 32) * weight := by ring
          _ = sum + n * weight := by rw [Nat.div_add_mod]
      rw [List.cons_append, readNumbers, digit, if_neg continued, low, induction, total]

theorem offset_le_of_mem_encodeNat {n : Nat} {c : Char} (member : c ∈ encodeNat n) :
    offset ≤ c.toNat := by
  fun_induction encodeNat n with
  | case1 n small =>
      obtain rfl := List.mem_singleton.mp member
      rw [toNat_ofNat_add_offset (by omega)]
      omega
  | case2 n large induction =>
      obtain rfl | later := List.mem_cons.mp member
      · rw [toNat_ofNat_add_offset (by omega)]
        omega
      · exact induction later

theorem encodeNat_ne_nil (n : Nat) : encodeNat n ≠ [] := by
  unfold encodeNat
  split <;> simp

theorem unfold_fold (d : Int) : unfold (fold d) = d := by
  unfold fold unfold
  by_cases nonnegative : 0 ≤ d
  · have even : ¬ (2 * d.toNat) % 2 = 1 := by omega
    simp only [if_pos nonnegative, beq_iff_eq, if_neg even]
    omega
  · have odd : (2 * (-d).toNat - 1) % 2 = 1 := by omega
    simp only [if_neg nonnegative, beq_iff_eq, if_pos odd]
    omega

/-- The steps that were encoded are read back whole, and lead to the positions again. -/
theorem accumulate_encodeFrom (lat lon : Int) (pairs : List (Int × Int)) :
    (readNumbers .start (encodeFrom lat lon pairs)).2 = true ∧
      (pairUp (readNumbers .start (encodeFrom lat lon pairs)).1).2 = true ∧
      accumulate lat lon (pairUp (readNumbers .start (encodeFrom lat lon pairs)).1).1 = pairs := by
  induction pairs generalizing lat lon with
  | nil => exact ⟨rfl, rfl, rfl⟩
  | cons pair rest induction =>
      obtain ⟨y, x⟩ := pair
      obtain ⟨wholeNumbers, wholePairs, sums⟩ := induction y x
      have numbers : readNumbers .start (encodeFrom lat lon ((y, x) :: rest)) =
          (fold (y - lat) :: fold (x - lon) :: (readNumbers .start (encodeFrom y x rest)).1,
            (readNumbers .start (encodeFrom y x rest)).2) := by
        rw [encodeFrom, List.append_assoc]
        simp only [Progress.start, readNumbers_encodeNat, Nat.zero_add, Nat.mul_one]
      rw [numbers]
      refine ⟨wholeNumbers, wholePairs, ?_⟩
      simp only [pairUp, accumulate, unfold_fold, add_sub_cancel, sums]

theorem positions_encodeFrom (pairs : List (Int × Int)) :
    positions (encodeFrom 0 0 pairs) = pairs :=
  (accumulate_encodeFrom 0 0 pairs).2.2

theorem endsWhole_encodeFrom (pairs : List (Int × Int)) :
    endsWhole (encodeFrom 0 0 pairs) = true := by
  obtain ⟨wholeNumbers, wholePairs, -⟩ := accumulate_encodeFrom 0 0 pairs
  rw [endsWhole, wholeNumbers, wholePairs, Bool.and_self]

theorem offset_le_of_mem_encodeFrom {lat lon : Int} {pairs : List (Int × Int)} {c : Char}
    (member : c ∈ encodeFrom lat lon pairs) : offset ≤ c.toNat := by
  induction pairs generalizing lat lon with
  | nil => exact absurd member List.not_mem_nil
  | cons pair rest induction =>
      obtain ⟨y, x⟩ := pair
      rw [encodeFrom, List.mem_append, List.mem_append] at member
      obtain (first | second) | later := member
      · exact offset_le_of_mem_encodeNat first
      · exact offset_le_of_mem_encodeNat second
      · exact induction later

theorem not_isBlank_encodeFrom {pairs : List (Int × Int)} (filled : pairs ≠ []) :
    ¬ IsBlank (encodeFrom 0 0 pairs) := by
  obtain ⟨⟨y, x⟩, rest, rfl⟩ := List.exists_cons_of_ne_nil filled
  rintro (empty | ⟨c, member, low⟩)
  · simp [encodeFrom, encodeNat_ne_nil] at empty
  · exact absurd (offset_le_of_mem_encodeFrom member) (Nat.not_le.mpr low)

theorem fits_of_lt {n : Int} (small : n.natAbs < 2 ^ 1023) : Fits n := by
  have limit : 2 ^ 1023 ≤ Decimal.overflowLimit := by decide +kernel
  exact Nat.lt_of_lt_of_le small limit

/-- Decoding an encoded list of positions gives the point of each position, in order. -/
theorem decode_encode {precision : Int} (usual : precision = 5 ∨ precision = 6)
    (pairs : List (Int × Int))
    (bounded : ∀ pair ∈ pairs, pair.1.natAbs < 2 ^ 1023 ∧ pair.2.natAbs < 2 ^ 1023) :
    decode precision (encode pairs) =
      .ok (pairs.map fun pair => ⟨inDegrees precision pair.2, inDegrees precision pair.1⟩) := by
  have usable : IsUsable precision := by
    obtain rfl | rfl := usual <;> exact ⟨by decide, by decide⟩
  by_cases empty : pairs = []
  · subst empty
    exact decode_of_isBlank precision (.inl rfl)
  have characters : (encode pairs).toList = encodeFrom 0 0 pairs := String.toList_ofList
  have solid : ¬ IsBlank (encode pairs).toList := characters ▸ not_isBlank_encodeFrom empty
  have fit : ∀ pair ∈ pairs, Fits pair.1 ∧ Fits pair.2 := fun pair member =>
    ⟨fits_of_lt (bounded pair member).1, fits_of_lt (bounded pair member).2⟩
  rw [decode_of_not_isBlank usable solid, characters, positions_encodeFrom,
    endsWhole_encodeFrom, if_pos fit]
  rfl

/-- Three positions with steps in both directions, as a text and as points. -/
theorem decode_encode_triangle :
    decode 5 (encode [(3850000, -12020000), (4070000, -12095000), (-1, 0)]) =
      .ok [⟨-120.2, 38.5⟩, ⟨-120.95, 40.7⟩, ⟨0, -0.00001⟩] :=
  decode_encode (.inl rfl) [(3850000, -12020000), (4070000, -12095000), (-1, 0)]
    (by decide +kernel)

end JourneyCost.Polyline
