import JourneyCost.Fault
import Mathlib.Data.List.Basic

/-!
# Faults of readings item by item

A reading of items one after the other fails at the first item that cannot be read, and with the
fault of that item.
-/

namespace JourneyCost

variable {α β : Type} {read : α → Except Fault β} {items : List α} {fault : Fault}

/-- Whether the fault says that a parameter of a request is missing or contradictory. -/
def Fault.isInvalidInput : Fault → Bool
  | .invalidInput _ | .invalidMileage => true
  | _ => false

/-- The fault of a reading that gives no value. -/
def cause? : Except Fault α → Option Fault
  | .ok _ => none
  | .error cause => some cause

theorem cause?_eq_some_iff {result : Except Fault α} :
    cause? result = some fault ↔ result = .error fault := by
  cases result <;> simp [cause?]

theorem toOption_bind (first : Except Fault α) (next : α → Except Fault β) :
    (first >>= next).toOption = first.toOption.bind fun value => (next value).toOption := by
  cases first <;> rfl

theorem toOption_eq_some_iff {result : Except Fault α} {value : α} :
    result.toOption = some value ↔ result = .ok value := by
  cases result <;> simp [Except.toOption]

/-- A reader that forgives a first step fails only in what comes after it. -/
theorem recoverWhen_bind_eq_error_iff {belongs : Fault → Bool} {substitute : β}
    {first : Except Fault α}
    (forgives : ∀ cause, first = .error cause → belongs cause = true) :
    recoverWhen belongs substitute (first >>= read) = .error fault ↔
      ∃ value, first = .ok value ∧ recoverWhen belongs substitute (read value) = .error fault := by
  cases begun : first with
  | ok value => simp
  | error cause => simp [recoverWhen, forgives cause begun]

/-- A reader with nothing for a substitute finds what it would find without. -/
theorem recoverWhen_none_eq_some_iff {belongs : Fault → Bool} {result : Except Fault (Option β)}
    {value : β} :
    recoverWhen belongs none result = .ok (some value) ↔ result = .ok (some value) := by
  cases result with
  | ok found => simp
  | error cause => cases forgiven : belongs cause <;> simp [recoverWhen, forgiven]

theorem mapM_eq_error_iff :
    items.mapM read = .error fault ↔
      ∃ before item after, items = before ++ item :: after ∧
        (∀ earlier ∈ before, ∃ value, read earlier = .ok value) ∧ read item = .error fault := by
  induction items with
  | nil => simp [pure, Except.pure]
  | cons first rest induction =>
      rw [List.mapM_cons, bind_eq_error]
      constructor
      · rintro (here | ⟨value, begun, stopped⟩)
        · exact ⟨[], first, rest, rfl, by simp, here⟩
        · rw [bind_eq_error] at stopped
          rcases stopped with later | ⟨values, -, returned⟩
          · obtain ⟨before, item, after, rfl, readable, failed⟩ := induction.mp later
            refine ⟨first :: before, item, after, rfl, ?_, failed⟩
            exact List.forall_mem_cons.mpr ⟨⟨value, begun⟩, readable⟩
          · simp [pure, Except.pure] at returned
      · rintro ⟨before, item, after, split, readable, failed⟩
        cases before with
        | nil =>
            obtain ⟨rfl, rfl⟩ := List.cons.inj split
            exact .inl failed
        | cons head before =>
            obtain ⟨rfl, rfl⟩ := List.cons.inj split
            obtain ⟨⟨value, begun⟩, readableRest⟩ := List.forall_mem_cons.mp readable
            have later := induction.mpr ⟨before, item, after, rfl, readableRest, failed⟩
            exact .inr ⟨value, begun, bind_eq_error.mpr (.inl later)⟩

/-- If two steps can only fail in one way, the order in which they are made does not matter. -/
theorem bind_eq_error_iff_or {first : Except Fault α} {bad badNext : Prop} {only : Fault}
    (fails : ∀ cause, first = .error cause ↔ cause = only ∧ bad)
    (nextFails : ∀ value, first = .ok value →
      (read value = .error fault ↔ fault = only ∧ badNext)) :
    (first >>= read) = .error fault ↔ fault = only ∧ (bad ∨ badNext) := by
  cases begun : first with
  | error cause =>
      obtain ⟨rfl, spoiled⟩ := (fails cause).mp begun
      simp [spoiled, eq_comm]
  | ok value =>
      have sound : ¬ bad := fun spoiled => by simp [(fails only).mpr ⟨rfl, spoiled⟩] at begun
      rw [ok_bind, nextFails value begun]
      simp [sound]

/-- A reading that never fails reads item by item. -/
theorem mapM_eq_ok {read : α → Except Fault β} {made : α → β}
    (each : ∀ item ∈ items, read item = .ok (made item)) :
    items.mapM read = .ok (items.map made) := by
  induction items with
  | nil => rfl
  | cons first rest induction =>
      obtain ⟨here, later⟩ := List.forall_mem_cons.mp each
      rw [List.mapM_cons, here, ok_bind, induction later, ok_bind]
      rfl

/-- If items can only fail in one way, the order in which they are read does not matter. -/
theorem mapM_eq_error_iff_exists {bad : α → Prop} {only : Fault}
    (fails : ∀ item ∈ items, ∀ cause, read item = .error cause ↔ cause = only ∧ bad item) :
    items.mapM read = .error fault ↔ fault = only ∧ ∃ item ∈ items, bad item := by
  induction items generalizing fault with
  | nil => simp [pure, Except.pure]
  | cons first rest induction =>
      obtain ⟨here, later⟩ := List.forall_mem_cons.mp fails
      rw [List.mapM_cons, List.exists_mem_cons_iff]
      refine bind_eq_error_iff_or here fun value begun => ?_
      simp only [bind_eq_error, induction later, pure, Except.pure, reduceCtorEq, and_false,
        exists_false, or_false]

theorem foldlM_eq_error_iff_exists {step : β → α → Except Fault β} {bad : α → Prop} {only : Fault}
    (fails : ∀ state item cause, step state item = .error cause ↔ cause = only ∧ bad item)
    (state : β) :
    items.foldlM step state = .error fault ↔ fault = only ∧ ∃ item ∈ items, bad item := by
  induction items generalizing state with
  | nil => simp [pure, Except.pure]
  | cons first rest induction =>
      rw [List.foldlM_cons, List.exists_mem_cons_iff]
      exact bind_eq_error_iff_or (fails state first) fun next _ => induction next

/-- What every step keeps holds at the end of a run. -/
theorem foldlM_preserves {step : β → α → Except Fault β} (holds : β → Prop)
    (keeps : ∀ state item next, item ∈ items → holds state → step state item = .ok next →
      holds next) {start stop : β} (begun : holds start)
    (done : items.foldlM step start = .ok stop) : holds stop := by
  induction items generalizing start with
  | nil =>
      obtain rfl : start = stop := Except.ok.inj done
      exact begun
  | cons first rest induction =>
      rw [List.foldlM_cons, bind_eq_ok] at done
      obtain ⟨next, here, later⟩ := done
      refine induction ?_ (keeps start first next List.mem_cons_self begun here) later
      exact fun state item after member =>
        keeps state item after (List.mem_cons_of_mem first member)

/-- A reading item by item gives what each item is read as, whatever the others are. -/
theorem forall₂_of_mapM {values : List β} (done : items.mapM read = .ok values) :
    List.Forall₂ (fun item value => read item = .ok value) items values := by
  induction items generalizing values with
  | nil =>
      obtain rfl : [] = values := Except.ok.inj done
      exact .nil
  | cons first rest induction =>
      rw [List.mapM_cons, bind_eq_ok] at done
      obtain ⟨head, here, done⟩ := done
      rw [bind_eq_ok] at done
      obtain ⟨more, later, done⟩ := done
      obtain rfl : head :: more = values := Except.ok.inj done
      exact .cons here (induction later)

theorem mapM_of_forall₂ {values : List β}
    (answered : List.Forall₂ (fun item value => read item = .ok value) items values) :
    items.mapM read = .ok values := by
  induction answered with
  | nil => rfl
  | cons here _ induction =>
      rw [List.mapM_cons, here, induction]
      rfl

theorem readable_of_mapM {values : List β} (done : items.mapM read = .ok values) :
    ∀ item ∈ items, ∃ value, read item = .ok value := by
  have answered := forall₂_of_mapM done
  clear done
  induction answered with
  | nil => simp
  | cons here _ induction => exact List.forall_mem_cons.mpr ⟨⟨_, here⟩, induction⟩

theorem mem_iff_of_mapM {values : List β} (done : items.mapM read = .ok values) {value : β} :
    value ∈ values ↔ ∃ item ∈ items, read item = .ok value := by
  have answered := forall₂_of_mapM done
  clear done
  induction answered with
  | nil => simp
  | cons here _ induction =>
      rw [List.mem_cons, List.exists_mem_cons_iff, here, Except.ok.injEq]
      exact or_congr eq_comm induction

/-- Lists read item by item hold something when one of the lists does. -/
theorem flatten_ne_nil_of_mapM {read : α → Except Fault (List β)} {values : List (List β)}
    (done : items.mapM read = .ok values) :
    values.flatten ≠ [] ↔ ∃ item ∈ items, ∃ value, read item = .ok value ∧ value ≠ [] := by
  simp only [ne_eq, List.flatten_eq_nil_iff, not_forall, mem_iff_of_mapM done]
  constructor
  · rintro ⟨value, ⟨item, member, given⟩, filled⟩
    exact ⟨item, member, value, given, filled⟩
  · rintro ⟨item, member, value, given, filled⟩
    exact ⟨value, ⟨item, member, given⟩, filled⟩

end JourneyCost
