import JourneyCost.Json.Reader
import JourneyCost.Proofs.Fault
import JourneyCost.Proofs.Json.Lexeme
import JourneyCost.Proofs.Json.Sorted

/-!
# Documents that were read

An integer with too many digits is refused, and a member that is read again takes the place of the
one before.  So a document that was read is one that a text can hold.
-/

namespace JourneyCost.Json

theorem readable_of_mem_tokensFrom {mode : Mode} {cs : List Char} {value : Json}
    (member : .scalar value ∈ tokensFrom mode cs) : value.Readable := by
  cases occurs_of_mem_tokensFrom member with
  | mark c here => exact absurd here (by unfold punctuation?; split <;> simp)
  | scalar readable => exact readable

/-- What was read of a list or object that is still open can be read. -/
def Frame.Readable : Frame → Prop
  | list read => ∀ item ∈ read, item.Readable
  | object read _ => (Json.object read).Readable

/-- Everything that was read so far can be read. -/
structure Machine.Readable (machine : Machine) : Prop where
  /-- The open lists and objects. -/
  stack : ∀ frame ∈ machine.stack, frame.Readable
  /-- The complete document. -/
  done : ∀ value, machine.expect = .done value → value.Readable

namespace Machine

variable {stack : List Frame} {value : Json} {machine next : Machine} {token : Token}

theorem readable_accept (open_ : ∀ frame ∈ stack, frame.Readable) (inside : value.Readable) :
    (accept stack value).Readable := by
  cases stack with
  | nil => exact ⟨by simp [accept], fun found same => Expect.done.inj same ▸ inside⟩
  | cons frame outer =>
      obtain ⟨inner, others⟩ := List.forall_mem_cons.mp open_
      cases frame with
      | list read =>
          have more : Frame.Readable (.list (value :: read)) :=
            List.forall_mem_cons.mpr ⟨inside, inner⟩
          exact ⟨List.forall_mem_cons.mpr ⟨more, others⟩, by simp [accept]⟩
      | object read key =>
          have more : Frame.Readable (.object (read.put key value) key) :=
            readable_put inner inside key
          exact ⟨List.forall_mem_cons.mpr ⟨more, others⟩, by simp [accept]⟩

theorem readable_begin (open_ : ∀ frame ∈ stack, frame.Readable)
    (sound : ∀ value, token = .scalar value → value.Readable)
    (begun : begin stack token = .ok next) : next.Readable := by
  cases token with
  | openObject =>
      obtain rfl := Except.ok.inj begun
      exact ⟨List.forall_mem_cons.mpr ⟨readable_empty, open_⟩, by simp⟩
  | openList =>
      obtain rfl := Except.ok.inj begun
      exact ⟨List.forall_mem_cons.mpr ⟨List.forall_mem_nil _, open_⟩, by simp⟩
  | quoted s =>
      obtain rfl := Except.ok.inj begun
      exact readable_accept open_ (.text s)
  | scalar value =>
      obtain rfl := Except.ok.inj begun
      exact readable_accept open_ (sound value rfl)
  | fault | closeObject | closeList | colon | comma => simp [begin] at begun

theorem readable_step (readable : machine.Readable)
    (sound : ∀ value, token = .scalar value → value.Readable)
    (stepped : machine.step token = .ok next) : next.Readable := by
  have parts : ∀ frame outer, machine.stack = frame :: outer →
      frame.Readable ∧ ∀ below ∈ outer, below.Readable := fun frame outer same =>
    List.forall_mem_cons.mp (same ▸ readable.stack)
  unfold step at stepped
  split at stepped
  case h_1 | h_3 => exact readable_begin readable.stack sound stepped
  case h_12 => simp at stepped
  all_goals obtain rfl := Except.ok.inj stepped
  case h_7 => exact ⟨readable.stack, by simp⟩
  all_goals obtain ⟨inner, others⟩ := parts _ _ ‹machine.stack = _›
  case h_2 => exact readable_accept others (.list (List.forall_mem_nil _))
  case h_4 => exact readable_accept others readable_empty
  case h_10 =>
    exact readable_accept others (.list fun item member => inner item (List.mem_reverse.mp member))
  case h_11 => exact readable_accept others inner
  all_goals exact ⟨List.forall_mem_cons.mpr ⟨inner, others⟩, by simp⟩

end Machine

/-- A document that was read can be read. -/
theorem readable_of_read {s : String} {document : Json} (held : read s = .ok document) :
    document.Readable := by
  obtain ⟨machine, ran, complete⟩ := bind_eq_ok.mp held
  have readable : machine.Readable := by
    refine foldlM_preserves Machine.Readable ?_ ⟨by simp [Machine.start], by simp [Machine.start]⟩
      ran
    intro state token next member before stepped
    exact Machine.readable_step before
      (fun value same => readable_of_mem_tokensFrom (same ▸ member)) stepped
  split at complete
  · rename_i value finished
    obtain rfl := Except.ok.inj complete
    exact readable.done value finished
  · simp at complete

/-- A path leads to the same value, up to the order of members. -/
theorem follow?_sorted {document : Json} (distinct : document.Distinct) (path : List String) :
    document.sorted.follow? path = (document.follow? path).map sorted := by
  induction path generalizing document with
  | nil => cases document <;> rfl
  | cons name more induction =>
      cases document with
      | object fields =>
          obtain ⟨names, members⟩ := distinct_object_iff.mp distinct
          rw [sorted_object, follow?, follow?, find?_orderedFields names]
          cases found : Fields.find? fields name with
          | none => rfl
          | some inner => exact induction (members name inner found)
      | null | bool | int | float | text | list => simp [sorted, follow?]

theorem distinct_sorted {document : Json} (distinct : document.Distinct) :
    document.sorted.Distinct := by
  intro path fields leads
  rw [follow?_sorted distinct] at leads
  obtain ⟨inner, before, same⟩ := Option.map_eq_some_iff.mp leads
  cases inner with
  | object inside =>
      rw [sorted_object] at same
      rw [← object.inj same]
      exact nodup_orderedFields (distinct path inside before)
  | null | bool | int | float | text | list => simp [sorted] at same

end JourneyCost.Json
