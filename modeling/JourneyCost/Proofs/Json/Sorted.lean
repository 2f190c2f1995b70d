import JourneyCost.Json.Writer
import JourneyCost.Proofs.Json.Path
import Mathlib.Data.List.Sort
import Mathlib.Data.String.Basic

/-!
# Documents with their members in order

When the members of all objects are put in order of their names, the same members are there, and
names that are distinct ascend strictly.  Names stay distinct when values are put at the ends of
paths.
-/

namespace JourneyCost

namespace Fields

variable {fields : Fields} {key name : String} {value : Json}

theorem map_fst_put (fields : Fields) (key : String) (value : Json) :
    (fields.put key value).map Prod.fst =
      if key ∈ fields.map Prod.fst then fields.map Prod.fst else fields.map Prod.fst ++ [key] := by
  induction fields with
  | nil => rfl
  | cons field rest induction =>
      obtain ⟨k, v⟩ := field
      by_cases here : k = key
      · simp [put, here]
      · simp only [put, beq_false_of_ne here, Bool.false_eq_true, if_false, List.map_cons,
          induction, List.mem_cons, Ne.symm here, false_or]
        split <;> rfl

theorem nodup_put (distinct : (fields.map Prod.fst).Nodup) (key : String) (value : Json) :
    ((fields.put key value).map Prod.fst).Nodup := by
  rw [map_fst_put]
  split
  · exact distinct
  · rename_i fresh
    exact List.Nodup.append distinct (List.nodup_singleton key)
      (List.disjoint_singleton.mpr fresh)

theorem find?_eq_some_iff (distinct : (fields.map Prod.fst).Nodup) :
    fields.find? name = some value ↔ (name, value) ∈ fields := by
  induction fields with
  | nil => simp [find?]
  | cons field rest induction =>
      obtain ⟨k, v⟩ := field
      rw [List.map_cons, List.nodup_cons] at distinct
      rw [find?_cons, List.mem_cons, Prod.mk.injEq]
      by_cases here : name = k
      · subst here
        have absent : (name, value) ∉ rest := fun member =>
          distinct.1 (List.mem_map.mpr ⟨(name, value), member, rfl⟩)
        simp [absent, eq_comm]
      · simp [here, induction distinct.2]

end Fields

namespace Json

/-- Whether all objects in a document have members with distinct names, as far as paths lead. -/
def Distinct (document : Json) : Prop :=
  ∀ path fields, document.follow? path = some (object fields) → (fields.map Prod.fst).Nodup

theorem distinct_object_iff {fields : Fields} : (object fields).Distinct ↔
    (fields.map Prod.fst).Nodup ∧
      ∀ name inner, fields.find? name = some inner → inner.Distinct := by
  constructor
  · intro distinct
    refine ⟨distinct [] fields rfl, fun name inner found path below leads => ?_⟩
    exact distinct (name :: path) below (by rw [follow?, found, Option.bind_some, leads])
  · rintro ⟨names, members⟩ path below leads
    cases path with
    | nil =>
        obtain rfl : fields = below := object.inj (Option.some.inj leads)
        exact names
    | cons name more =>
        obtain ⟨inner, found, deeper⟩ := Option.bind_eq_some_iff.mp leads
        exact members name inner found more below deeper

/-- What a path leads to has distinct names too. -/
theorem distinct_of_follow? {document inner : Json} {path : List String}
    (distinct : document.Distinct) (leads : document.follow? path = some inner) :
    inner.Distinct := by
  intro more fields further
  refine distinct (path ++ more) fields ?_
  rw [follow?_append, leads, Option.bind_some, further]

theorem distinct_empty : (object []).Distinct :=
  distinct_object_iff.mpr ⟨List.nodup_nil, fun _ _ found => absurd found (by simp [Fields.find?])⟩

theorem distinct_float (x : Float) : (float x).Distinct := by
  intro path fields leads
  cases path <;> simp [follow?] at leads

theorem distinct_graft? {value document after : Json} {path : List String}
    (grafted : graft? value document path = some after) (distinct : document.Distinct)
    (inside : value.Distinct) : after.Distinct := by
  induction path generalizing document after with
  | nil =>
      obtain rfl : value = after := by simpa [graft?] using grafted
      exact inside
  | cons name more induction =>
      obtain ⟨fields, inner, rfl, step, rfl⟩ := graft?_cons_eq_some grafted
      obtain ⟨names, members⟩ := distinct_object_iff.mp distinct
      refine distinct_object_iff.mpr
        ⟨Fields.nodup_put names name inner, fun name' below found => ?_⟩
      rw [Fields.find?_put] at found
      split at found
      · obtain rfl : inner = below := Option.some.inj found
        refine induction step ?_
        cases there : Fields.find? fields name with
        | none => exact distinct_empty
        | some value => exact members name value there
      · exact members name' below found

theorem distinct_graftAll? {document after : Json} {writes : List (List String × Json)}
    (grafted : graftAll? document writes = some after) (distinct : document.Distinct)
    (inside : ∀ write ∈ writes, write.2.Distinct) : after.Distinct := by
  refine graftAll?_preserves Distinct grafted ?_ distinct
  exact fun write member _ _ step before => distinct_graft? step before (inside write member)

/-- The members of an object in order of their names, and so inside them. -/
def orderedFields (fields : Fields) : Fields :=
  (sortedFields fields).mergeSort fun a b => !decide (b.1 < a.1)

theorem sorted_object (fields : Fields) : (object fields).sorted = object (orderedFields fields) :=
  rfl

theorem sortedFields_eq_map (fields : Fields) :
    sortedFields fields = fields.map fun field => (field.1, field.2.sorted) := by
  induction fields with
  | nil => rfl
  | cons field rest induction => rw [sortedFields, induction, List.map_cons]

theorem mem_orderedFields {fields : Fields} {name : String} {value : Json} :
    (name, value) ∈ orderedFields fields ↔
      ∃ inner, (name, inner) ∈ fields ∧ inner.sorted = value := by
  rw [orderedFields, List.mem_mergeSort, sortedFields_eq_map, List.mem_map]
  simp only [Prod.exists, Prod.mk.injEq]
  constructor
  · rintro ⟨k, inner, member, rfl, same⟩
    exact ⟨inner, member, same⟩
  · rintro ⟨inner, member, same⟩
    exact ⟨name, inner, member, rfl, same⟩

theorem map_fst_orderedFields_perm (fields : Fields) :
    ((orderedFields fields).map Prod.fst).Perm (fields.map Prod.fst) := by
  refine ((List.mergeSort_perm _ _).map Prod.fst).trans (List.Perm.of_eq ?_)
  rw [sortedFields_eq_map, List.map_map]
  rfl

theorem nodup_orderedFields {fields : Fields} (distinct : (fields.map Prod.fst).Nodup) :
    ((orderedFields fields).map Prod.fst).Nodup :=
  (map_fst_orderedFields_perm fields).nodup_iff.mpr distinct

/-- Distinct names ascend strictly when they are in order. -/
theorem pairwise_orderedFields {fields : Fields} (distinct : (fields.map Prod.fst).Nodup) :
    (orderedFields fields).Pairwise fun a b => a.1 < b.1 := by
  have sorted : (orderedFields fields).Pairwise fun a b => a.1 ≤ b.1 := by
    refine (List.pairwise_mergeSort ?_ ?_ _).imp ?_
    · intro a b c
      simp only [Bool.not_eq_true', decide_eq_false_iff_not, not_lt]
      exact le_trans
    · intro a b
      simp only [Bool.or_eq_true, Bool.not_eq_true', decide_eq_false_iff_not, not_lt]
      exact le_total a.1 b.1
    · intro a b
      simp only [Bool.not_eq_true', decide_eq_false_iff_not, not_lt, imp_self]
  have apart : (orderedFields fields).Pairwise fun a b => a.1 ≠ b.1 :=
    List.pairwise_map.mp (nodup_orderedFields distinct)
  exact sorted.imp₂ (fun _ _ below different => lt_of_le_of_ne below different) apart

/-- Members are in order as soon as their names ascend. -/
theorem orderedFields_eq {fields ordered : Fields} (same : ordered.Perm (sortedFields fields))
    (ascending : ordered.Pairwise fun a b => a.1 < b.1) : orderedFields fields = ordered := by
  have named : (sortedFields fields).map Prod.fst = fields.map Prod.fst := by
    rw [sortedFields_eq_map, List.map_map]
    rfl
  have names : (fields.map Prod.fst).Nodup := by
    rw [← named, ← (same.map Prod.fst).nodup_iff]
    exact List.pairwise_map.mpr (ascending.imp ne_of_lt)
  have together : (orderedFields fields).Perm ordered := (List.mergeSort_perm _ _).trans same.symm
  refine together.eq_of_pairwise ?_ (pairwise_orderedFields names) ascending
  exact fun a b _ _ less greater => absurd less (lt_asymm greater)

/-- An object is in order when its names ascend and what is inside is in order. -/
theorem sorted_object_of_ascending {fields : Fields}
    (ascending : fields.Pairwise fun a b => a.1 < b.1)
    (inside : ∀ field ∈ fields, field.2.sorted = field.2) :
    (object fields).sorted = object fields := by
  have same : sortedFields fields = fields := by
    have kept : ∀ field ∈ fields, (field.1, field.2.sorted) = id field :=
      fun field member => Prod.ext rfl (inside field member)
    rw [sortedFields_eq_map, List.map_congr_left kept, List.map_id]
  rw [sorted_object, orderedFields_eq (.of_eq same.symm) ascending]

theorem find?_orderedFields {fields : Fields} (distinct : (fields.map Prod.fst).Nodup)
    (name : String) :
    Fields.find? (orderedFields fields) name = (Fields.find? fields name).map sorted := by
  ext value
  rw [Fields.find?_eq_some_iff (nodup_orderedFields distinct), mem_orderedFields,
    Option.map_eq_some_iff]
  simp only [Fields.find?_eq_some_iff distinct]

/-- The members of an object that a path leads to, in order, are what lies one name further. -/
theorem mem_orderedFields_iff_follow? {document : Json} {path : List String} {fields : Fields}
    (distinct : document.Distinct) (leads : document.follow? path = some (object fields))
    {name : String} {value : Json} :
    (name, value) ∈ orderedFields fields ↔
      ∃ inner, document.follow? (path ++ [name]) = some inner ∧ inner.sorted = value := by
  rw [follow?_concat_of_object leads, mem_orderedFields]
  simp only [Fields.find?_eq_some_iff (distinct path fields leads)]

/-- If all members of an object are objects, so they are in order. -/
theorem mem_orderedFields_iff_of_objects {document : Json} {path : List String} {fields : Fields}
    (distinct : document.Distinct) (leads : document.follow? path = some (object fields))
    (objects : ∀ name inner, document.follow? (path ++ [name]) = some inner →
      ∃ inside, inner = object inside) {name : String} {value : Json} :
    (name, value) ∈ orderedFields fields ↔ ∃ inside,
      document.follow? (path ++ [name]) = some (object inside) ∧
        value = object (orderedFields inside) := by
  rw [mem_orderedFields_iff_follow? distinct leads]
  constructor
  · rintro ⟨inner, further, rfl⟩
    obtain ⟨inside, rfl⟩ := objects name inner further
    exact ⟨inside, further, rfl⟩
  · rintro ⟨inside, further, rfl⟩
    exact ⟨object inside, further, rfl⟩

end Json

end JourneyCost
