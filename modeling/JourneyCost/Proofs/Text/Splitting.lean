import JourneyCost.Text.Split
import Mathlib.Data.List.TakeWhile

/-!
# Texts that are put together and split again

A text is cut at the first separator, and parts without a separator that were joined with one are
the parts into which the text is split.
-/

namespace JourneyCost.Text

variable {separator : Char} {front rest : List Char}

theorem bne_of_not_mem (inside : separator ∉ front) : ∀ c ∈ front, (c != separator) = true :=
  fun _ member => bne_iff_ne.mpr fun same => inside (same ▸ member)

theorem cutChars_append (inside : separator ∉ front) :
    cutChars separator (front ++ separator :: rest) = (front, some rest) := by
  have differs := bne_of_not_mem inside
  rw [cutChars, List.dropWhile_append_of_pos differs, List.takeWhile_append_of_pos differs]
  simp

theorem splitChars_of_not_mem (inside : separator ∉ front) :
    splitChars separator front = [front] := by
  induction front with
  | nil => rfl
  | cons c more induction =>
      rw [List.mem_cons, not_or] at inside
      obtain ⟨differs, others⟩ := inside
      rw [splitChars, if_neg (by simpa using Ne.symm differs), induction others]

theorem splitChars_append (inside : separator ∉ front) :
    splitChars separator (front ++ separator :: rest) = front :: splitChars separator rest := by
  induction front with
  | nil => rw [List.nil_append, splitChars, if_pos (beq_self_eq_true _)]
  | cons c more induction =>
      rw [List.mem_cons, not_or] at inside
      obtain ⟨differs, others⟩ := inside
      rw [List.cons_append, splitChars, if_neg (by simpa using Ne.symm differs), induction others]

/-- There is one part more than there are separators. -/
theorem length_splitChars (cs : List Char) :
    (splitChars separator cs).length = cs.count separator + 1 := by
  induction cs with
  | nil => rfl
  | cons c rest induction =>
      rw [splitChars, List.count_cons]
      split
      · rw [List.length_cons, induction]
      · cases parts : splitChars separator rest with
        | nil => simp [parts] at induction
        | cons first more => simpa [parts] using induction

theorem splitChars_intercalate {parts : List (List Char)} (nonempty : parts ≠ [])
    (inside : ∀ part ∈ parts, separator ∉ part) :
    splitChars separator (List.intercalate [separator] parts) = parts := by
  induction parts with
  | nil => exact absurd rfl nonempty
  | cons part more induction =>
      obtain ⟨here, others⟩ := List.forall_mem_cons.mp inside
      cases more with
      | nil => rw [List.intercalate_singleton, splitChars_of_not_mem here]
      | cons next further =>
          rw [List.intercalate_cons_cons, List.append_assoc, List.singleton_append,
            splitChars_append here, induction (List.cons_ne_nil _ _) others]

end JourneyCost.Text
