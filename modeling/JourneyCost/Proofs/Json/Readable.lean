import JourneyCost.Json.Token
import JourneyCost.Proofs.Json.Sorted

/-!
# Documents that can be read

In a document that a text can hold the integers are not too long, and the members of every object
have distinct names.  Putting members in order keeps a document so, and so does putting a value at
the end of a path.
-/

namespace JourneyCost

theorem Fields.mem_put {fields : Fields} {key : String} {value : Json} {field : String × Json}
    (member : field ∈ fields.put key value) : field = (key, value) ∨ field ∈ fields := by
  induction fields with
  | nil => exact .inl (List.mem_singleton.mp member)
  | cons first rest induction =>
      obtain ⟨k, v⟩ := first
      unfold put at member
      split at member
      · exact (List.mem_cons.mp member).imp_right (List.mem_cons_of_mem _)
      · rcases List.mem_cons.mp member with rfl | later
        · exact .inr List.mem_cons_self
        · exact (induction later).imp_right (List.mem_cons_of_mem _)

theorem Fields.put_of_not_mem {fields : Fields} {key : String} (fresh : key ∉ fields.map Prod.fst)
    (value : Json) : fields.put key value = fields ++ [(key, value)] := by
  induction fields with
  | nil => rfl
  | cons first rest induction =>
      obtain ⟨k, v⟩ := first
      rw [List.map_cons, List.mem_cons, not_or] at fresh
      simp [put, beq_false_of_ne (Ne.symm fresh.1), induction fresh.2]

/-- A member whose name is not yet there comes last. -/
theorem Fields.put_of_nodup {fields more : Fields} {key : String} {value : Json}
    (names : ((fields ++ (key, value) :: more).map Prod.fst).Nodup) (other : Json) :
    fields.put key other = fields ++ [(key, other)] := by
  rw [List.map_append, List.map_cons] at names
  have apart := (List.nodup_cons.mp (List.nodup_middle.mp names)).1
  have fresh : key ∉ fields.map Prod.fst := fun before => apart (List.mem_append_left _ before)
  exact put_of_not_mem fresh other

namespace Json

/-- Whether a text can hold a document. -/
inductive Readable : Json → Prop where
  /-- The null value. -/
  | null : Readable null
  /-- A truth value. -/
  | bool (value : Bool) : Readable (bool value)
  /-- An integer with as many digits as are allowed. -/
  | int {value : Int} (short : value.natAbs < 10 ^ digitLimit) : Readable (int value)
  /-- Any float. -/
  | float (value : Float) : Readable (float value)
  /-- Any text. -/
  | text (value : String) : Readable (text value)
  /-- A list of such documents. -/
  | list {items : List Json} (inside : ∀ item ∈ items, Readable item) : Readable (list items)
  /-- An object with such members under distinct names. -/
  | object {fields : Fields} (names : (fields.map Prod.fst).Nodup)
    (inside : ∀ field ∈ fields, Readable field.2) : Readable (object fields)

theorem readable_empty : (object []).Readable :=
  .object List.nodup_nil (List.forall_mem_nil _)

section

variable {fields : Fields} {value document after : Json} {path : List String}

theorem readable_put (readable : (object fields).Readable) (inside : value.Readable)
    (key : String) : (object (fields.put key value)).Readable := by
  cases readable with
  | object names members =>
      refine .object (Fields.nodup_put names key value) fun field member => ?_
      rcases Fields.mem_put member with rfl | before
      · exact inside
      · exact members field before

theorem distinct_of_readable (readable : document.Readable) : document.Distinct := by
  induction readable with
  | object names _ induction =>
      refine distinct_object_iff.mpr ⟨names, fun name inner found => ?_⟩
      exact induction (name, inner) ((Fields.find?_eq_some_iff names).mp found)
  | null | bool | int | float | text | list =>
      intro path fields leads
      cases path <;> simp [follow?] at leads

theorem readable_graft? (grafted : graft? value document path = some after)
    (readable : document.Readable) (inside : value.Readable) : after.Readable := by
  induction path generalizing document after with
  | nil =>
      obtain rfl : value = after := by simpa [graft?] using grafted
      exact inside
  | cons name more induction =>
      obtain ⟨fields, inner, rfl, step, rfl⟩ := graft?_cons_eq_some grafted
      refine readable_put readable (induction step ?_) name
      cases there : Fields.find? fields name with
      | none => exact readable_empty
      | some below =>
          cases readable with
          | object names members =>
              exact members (name, below) ((Fields.find?_eq_some_iff names).mp there)

theorem readable_graftAll? {writes : List (List String × Json)}
    (grafted : graftAll? document writes = some after) (readable : document.Readable)
    (inside : ∀ write ∈ writes, write.2.Readable) : after.Readable := by
  refine graftAll?_preserves Readable grafted ?_ readable
  exact fun write member _ _ step before => readable_graft? step before (inside write member)

theorem sortedItems_eq_map (items : List Json) : sortedItems items = items.map sorted := by
  induction items with
  | nil => rfl
  | cons item rest induction => rw [sortedItems, induction, List.map_cons]

theorem readable_sorted (readable : document.Readable) : document.sorted.Readable := by
  induction readable with
  | null => exact .null
  | bool value => exact .bool value
  | int short => exact .int short
  | float value => exact .float value
  | text value => exact .text value
  | list _ induction =>
      rw [sorted, sortedItems_eq_map]
      exact .list (List.forall_mem_map.mpr induction)
  | object names _ induction =>
      refine .object (nodup_orderedFields names) fun field member => ?_
      obtain ⟨inner, before, same⟩ := mem_orderedFields.mp member
      exact same ▸ induction _ before

end

end Json

end JourneyCost
