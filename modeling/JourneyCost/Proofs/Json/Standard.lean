import JourneyCost.Json.Value
import Mathlib.Data.List.Basic

/-!
# Standard documents

The text of a document is standard if all of its numbers are finite, for there are no standard words
for the others.
-/

namespace JourneyCost.Json

/-- All numbers in a document are finite. -/
inductive IsStandard : Json → Prop where
  /-- The null value. -/
  | null : IsStandard null
  /-- A truth value. -/
  | bool (value : Bool) : IsStandard (bool value)
  /-- An integer. -/
  | int (value : Int) : IsStandard (int value)
  /-- A finite float. -/
  | float {value : Float} (finite : value.isFinite = true) : IsStandard (float value)
  /-- A text. -/
  | text (value : String) : IsStandard (text value)
  /-- A list of such documents. -/
  | list {items : List Json} (inside : ∀ item ∈ items, IsStandard item) : IsStandard (list items)
  /-- An object with such members. -/
  | object {fields : Fields} (inside : ∀ field ∈ fields, IsStandard field.2) :
    IsStandard (object fields)

attribute [simp] IsStandard.null IsStandard.bool IsStandard.int IsStandard.text

@[simp] theorem isStandard_float_iff {value : Float} :
    (float value).IsStandard ↔ value.isFinite = true :=
  ⟨fun | .float finite => finite, .float⟩

@[simp] theorem isStandard_list_iff {items : List Json} :
    (list items).IsStandard ↔ ∀ item ∈ items, item.IsStandard :=
  ⟨fun | .list inside => inside, .list⟩

@[simp] theorem isStandard_object_iff {fields : Fields} :
    (object fields).IsStandard ↔ ∀ field ∈ fields, field.2.IsStandard :=
  ⟨fun | .object inside => inside, .object⟩

theorem isStandard_of_find? {fields : Fields} {key : String} {value : Json}
    (standard : (object fields).IsStandard) (found : fields.find? key = some value) :
    value.IsStandard := by
  obtain ⟨before, after, rfl, -⟩ := List.lookup_eq_some_iff.mp found
  exact isStandard_object_iff.mp standard (key, value) (by simp)

theorem isStandard_get {fields : Fields} (standard : (object fields).IsStandard) (key : String) :
    (fields.get key).IsStandard := by
  rw [Fields.get]
  cases found : fields.find? key with
  | none => exact .null
  | some value => exact isStandard_of_find? standard found

end JourneyCost.Json
