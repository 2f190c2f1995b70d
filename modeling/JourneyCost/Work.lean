import JourneyCost.Fault

/-!
# Work on a state

Work turns a state into a new one and gives a result or a fault.  A fault ends the work, but what
was done to the state before it stays done.
-/

namespace JourneyCost

/-- Work on a state. -/
def Work (σ α : Type) : Type := σ → Except Fault α × σ

namespace Work

variable {σ τ α β : Type}

/-- The outcome and the new state. -/
def run (work : Work σ α) (s : σ) : Except Fault α × σ := work s

/-- Work that goes on after its first part has a result. -/
def andThen (work : Work σ α) (next : α → Work σ β) : Work σ β := fun s =>
  match work s with
  | (.ok value, s') => next value s'
  | (.error fault, s') => (.error fault, s')

/-- Work that ends with a fault. -/
def fail (fault : Fault) : Work σ α := fun s => (.error fault, s)

/-- Work with a second attempt after a fault. -/
def orElse (work : Work σ α) (mend : Fault → Work σ α) : Work σ α := fun s =>
  match work s with
  | (.ok value, s') => (.ok value, s')
  | (.error fault, s') => mend fault s'

instance : Monad (Work σ) where
  pure value := fun s => (.ok value, s)
  bind := andThen

instance : MonadExceptOf Fault (Work σ) where
  throw := fail
  tryCatch := orElse

/-- The state. -/
def look : Work σ σ := fun s => (.ok s, s)

/-- Changes the state. -/
def change (f : σ → σ) : Work σ Unit := fun s => (.ok (), f s)

/-- A result that does not depend on the state. -/
def ofExcept (result : Except Fault α) : Work σ α := fun s => (result, s)

/-- The result of work, or a substitute if its fault belongs to a class. -/
def recover (belongs : Fault → Bool) (substitute : α) (work : Work σ α) : Work σ α := fun s =>
  let (result, s') := work s
  (recoverWhen belongs substitute result, s')

/-- Work on a part of the state. -/
def onPart (part : σ → τ) (put : σ → τ → σ) (work : Work τ α) : Work σ α := fun s =>
  let (result, t) := work (part s)
  (result, put s t)

@[simp] theorem run_pure (value : α) (s : σ) : (pure value : Work σ α).run s = (.ok value, s) :=
  rfl

@[simp] theorem run_fail (fault : Fault) (s : σ) :
    (fail fault : Work σ α).run s = (.error fault, s) := rfl

@[simp] theorem run_look (s : σ) : (look : Work σ σ).run s = (.ok s, s) := rfl

@[simp] theorem run_change (f : σ → σ) (s : σ) : (change f).run s = (.ok (), f s) := rfl

@[simp] theorem run_ofExcept (result : Except Fault α) (s : σ) :
    (ofExcept result : Work σ α).run s = (result, s) := rfl

@[simp] theorem run_recover (belongs : Fault → Bool) (substitute : α) (work : Work σ α) (s : σ) :
    (work.recover belongs substitute).run s =
      (recoverWhen belongs substitute (work.run s).1, (work.run s).2) := rfl

theorem run_bind (work : Work σ α) (next : α → Work σ β) (s : σ) :
    (work >>= next).run s =
      match work.run s with
      | (.ok value, s') => (next value).run s'
      | (.error fault, s') => (.error fault, s') := rfl

theorem run_tryCatch (work : Work σ α) (mend : Fault → Work σ α) (s : σ) :
    (tryCatch work mend).run s =
      match work.run s with
      | (.ok value, s') => (.ok value, s')
      | (.error fault, s') => (mend fault).run s' := rfl

theorem run_bind_eq_ok {work : Work σ α} {next : α → Work σ β} {s s' : σ} {result : β} :
    (work >>= next).run s = (.ok result, s') ↔
      ∃ value between, work.run s = (.ok value, between) ∧
        (next value).run between = (.ok result, s') := by
  rw [run_bind]
  constructor
  · intro completed
    rcases first : work.run s with ⟨fault | value, between⟩ <;> rw [first] at completed
    · exact absurd (congrArg Prod.fst completed) (by simp)
    · exact ⟨value, between, rfl, completed⟩
  · rintro ⟨value, between, first, rest⟩
    rw [first]
    exact rest

theorem run_ofExcept_bind_eq_ok {outcome : Except Fault α} {next : α → Work σ β} {s s' : σ}
    {result : β} :
    (ofExcept outcome >>= next).run s = (.ok result, s') ↔
      ∃ value, outcome = .ok value ∧ (next value).run s = (.ok result, s') := by
  rw [run_bind, run_ofExcept]
  cases outcome <;> simp

end Work

end JourneyCost
