import JourneyCost.Proofs.Geo.Position
import JourneyCost.Trip.Request

/-!
# Requests that cannot be read

Whatever is wrong with the fields of an object is listed as a flaw.  The reading itself fails only
when a position is given as a list that begins with an integer that no float can hold.
-/

namespace JourneyCost.Trip

open Json (HugePair)

/-- A position is a list whose first numbers are too large for a float. -/
def HugeCoordinate (value : Json) : Prop :=
  ∃ a b rest, value = .list (a :: b :: rest) ∧ HugePair (.ok a) (.ok b)

/-- The fields that give positions. -/
def coordinateKeys : List String := ["start_coord", "dest_coord"]

variable {fault : Fault}

theorem ofItems_eq_error_iff {items : List Json} :
    ofItems items = .error fault ↔ fault = .overflow ∧ HugeCoordinate (.list items) := by
  unfold ofItems HugeCoordinate
  rw [bind_eq_error, Geo.pairPosition_list_eq_error_iff]
  simp only [Json.list.injEq]
  constructor
  · rintro (huge | ⟨found, -, failed⟩)
    · exact huge
    · cases found <;> simp [pure, Except.pure] at failed
  · exact .inl

theorem not_hugeCoordinate_texts (parts : List String) :
    ¬ HugeCoordinate (.list (parts.map .text)) := by
  rintro ⟨a, b, rest, same, huge⟩
  have isText : ∀ item ∈ a :: b :: rest, ∃ s, item = .text s := by
    rw [← Json.list.inj same]
    simp
  obtain ⟨s, rfl⟩ := isText a (by simp)
  obtain ⟨t, rfl⟩ := isText b (by simp)
  simp [HugePair, Json.IsHuge] at huge

theorem readCoordinate_eq_error_iff {value : Json} :
    readCoordinate value = .error fault ↔ fault = .overflow ∧ HugeCoordinate value := by
  cases value with
  | list items => exact ofItems_eq_error_iff
  | text s =>
      have whole : ¬ HugeCoordinate (.text s) := by simp [HugeCoordinate]
      unfold readCoordinate
      simp only
      split
      · simp [whole]
      · rw [ofItems_eq_error_iff]
        simp only [not_hugeCoordinate_texts, whole]
  | null | bool | int | float | object => simp [readCoordinate, HugeCoordinate]

theorem coordinateField_eq_error_iff {key : String} {fields : Fields} :
    coordinateField key fields = .error fault ↔
      fault = .overflow ∧ HugeCoordinate (fields.get key) := by
  unfold coordinateField
  split
  · rename_i absent
    simp [absent, HugeCoordinate]
  · simp only [bind_eq_error, readCoordinate_eq_error_iff, pure, Except.pure, reduceCtorEq,
      and_false, exists_false, or_false]

theorem Request.read_eq_error_iff {fields : Fields} :
    Request.read (.object fields) = .error fault ↔
      fault = .overflow ∧ ∃ key ∈ coordinateKeys, HugeCoordinate (fields.get key) := by
  have either : (∃ key ∈ coordinateKeys, HugeCoordinate (fields.get key)) ↔
      HugeCoordinate (fields.get "start_coord") ∨ HugeCoordinate (fields.get "dest_coord") := by
    simp [coordinateKeys]
  rw [either]
  refine bind_eq_error_iff_or (fun cause => coordinateField_eq_error_iff) fun start _ => ?_
  simp only [bind_eq_error, coordinateField_eq_error_iff, pure, Except.pure, reduceCtorEq,
    and_false, exists_false, or_false]

end JourneyCost.Trip
