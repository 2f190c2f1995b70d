import JourneyCost.Work

/-!
# What work does to states

Work respects a likeness of states when it has one outcome in states that are alike, and leaves them
alike.  It stays within a relation when the state that it leaves is related to the one it began in.
Both pass from the parts of larger work to the whole.
-/

namespace JourneyCost.Work

variable {σ τ α β : Type} {alike : σ → σ → Prop}

theorem ofExcept_eq (result : Except Fault α) :
    (MonadExcept.ofExcept result : Work σ α) = ofExcept result := by
  cases result <;> rfl

/-- From states that are alike, the same outcome and states that are alike again. -/
def Respects (alike : σ → σ → Prop) (work : Work σ α) : Prop :=
  ∀ s t, alike s t →
    (work.run s).1 = (work.run t).1 ∧ alike (work.run s).2 (work.run t).2

theorem respects_pure (value : α) : Respects alike (pure value) :=
  fun _ _ alike => ⟨rfl, alike⟩

theorem respects_fail (fault : Fault) : Respects alike (fail fault : Work σ α) :=
  fun _ _ alike => ⟨rfl, alike⟩

theorem respects_ofExcept (result : Except Fault α) : Respects alike (ofExcept result) :=
  fun _ _ alike => ⟨rfl, alike⟩

theorem Respects.bind {work : Work σ α} {next : α → Work σ β} (first : Respects alike work)
    (rest : ∀ value, Respects alike (next value)) : Respects alike (work >>= next) := by
  intro s t states
  obtain ⟨same, between⟩ := first s t states
  rw [run_bind, run_bind]
  rcases left : work.run s with ⟨outcome, s'⟩
  rcases right : work.run t with ⟨other, t'⟩
  rw [left, right] at same between
  obtain rfl : outcome = other := same
  cases outcome with
  | error fault => exact ⟨rfl, between⟩
  | ok value => exact rest value s' t' between

theorem respects_ofExcept_bind {result : Except Fault α} {next : α → Work σ β}
    (rest : ∀ value, result = .ok value → Respects alike (next value)) :
    Respects alike (ofExcept result >>= next) := by
  intro s t states
  rw [run_bind, run_bind]
  cases result with
  | error fault => exact ⟨rfl, states⟩
  | ok value => exact rest value rfl s t states

/-- Work that looks at the state goes on alike if all it takes from there is alike. -/
theorem respects_look_bind {next : σ → Work σ α} {common : Work σ α}
    (same : ∀ s t, alike s t → next s = common ∧ next t = common)
    (respects : Respects alike common) : Respects alike (look >>= next) := by
  intro s t states
  obtain ⟨left, right⟩ := same s t states
  rw [run_bind, run_bind, run_look, run_look]
  simp only [left, right]
  exact respects s t states

theorem Respects.mended {work : Work σ α} {mend : Fault → Work σ α}
    (first : Respects alike work) (second : ∀ fault, Respects alike (mend fault)) :
    Respects alike (tryCatch work mend) := by
  intro s t states
  obtain ⟨same, between⟩ := first s t states
  rw [run_tryCatch, run_tryCatch]
  rcases left : work.run s with ⟨outcome, s'⟩
  rcases right : work.run t with ⟨other, t'⟩
  rw [left, right] at same between
  obtain rfl : outcome = other := same
  cases outcome with
  | error fault => exact second fault s' t' between
  | ok value => exact ⟨rfl, between⟩

theorem Respects.onPart {part : σ → τ} {put : σ → τ → σ} {alikePart : τ → τ → Prop}
    {work : Work τ α} (inside : Respects alikePart work)
    (parts : ∀ s t, alike s t → alikePart (part s) (part t))
    (puts : ∀ s t p q, alike s t → alikePart p q → alike (put s p) (put t q)) :
    Respects alike (Work.onPart part put work) := by
  intro s t states
  obtain ⟨same, between⟩ := inside (part s) (part t) (parts s t states)
  exact ⟨same, puts s t _ _ states between⟩

theorem run_bind_eq_error {work : Work σ α} {next : α → Work σ β} {s s' : σ} {fault : Fault} :
    (work >>= next).run s = (.error fault, s') ↔
      work.run s = (.error fault, s') ∨ ∃ value between, work.run s = (.ok value, between) ∧
        (next value).run between = (.error fault, s') := by
  rw [run_bind]
  rcases work.run s with ⟨cause | value, between⟩
  · simp
  · constructor
    · exact fun failed => .inr ⟨value, between, rfl, failed⟩
    · rintro (failed | ⟨_, _, same, failed⟩)
      · cases congrArg Prod.fst failed
      · obtain ⟨rfl, rfl⟩ : value = _ ∧ between = _ := by simpa using same
        exact failed

theorem run_bind_of_ok {work : Work σ α} {next : α → Work σ β} {s s' : σ} {value : α}
    (ran : work.run s = (.ok value, s')) : (work >>= next).run s = (next value).run s' := by
  rw [run_bind, ran]

theorem outcome_bind_of_error {work : Work σ α} {next : α → Work σ β} {s : σ} {fault : Fault}
    (stopped : (work.run s).1 = .error fault) : ((work >>= next).run s).1 = .error fault := by
  rw [run_bind]
  rcases ran : work.run s with ⟨outcome, s'⟩
  rw [ran] at stopped
  obtain rfl : outcome = .error fault := stopped
  rfl

/-- What the last part of the work returns is not told by the state that it leaves. -/
theorem state_bind_congr {work : Work σ α} {next other : α → Work σ β}
    (same : ∀ value s, ((next value).run s).2 = ((other value).run s).2) (s : σ) :
    ((work >>= next).run s).2 = ((work >>= other).run s).2 := by
  rw [run_bind, run_bind]
  rcases work.run s with ⟨fault | value, between⟩
  · rfl
  · exact same value between

/-- The state that is left is related to the one before, whatever the outcome. -/
def Within (reach : σ → σ → Prop) (work : Work σ α) : Prop :=
  ∀ s, reach s (work.run s).2

theorem Within.bind {reach : σ → σ → Prop} [Trans reach reach reach] {work : Work σ α}
    {next : α → Work σ β} (first : Within reach work) (rest : ∀ value, Within reach (next value)) :
    Within reach (work >>= next) := by
  intro s
  rw [run_bind]
  have begun := first s
  rcases ran : work.run s with ⟨fault | value, between⟩ <;> rw [ran] at begun
  · exact begun
  · exact Trans.trans begun (rest value between)

/-- When the work ends with a fault, the state that is left is related to the one before. -/
def FailsWithin (reach : σ → σ → Prop) (work : Work σ α) : Prop :=
  ∀ s fault s', work.run s = (.error fault, s') → reach s s'

theorem failsWithin_pure (reach : σ → σ → Prop) (value : α) :
    FailsWithin reach (pure value : Work σ α) :=
  fun _ _ _ failed => by cases congrArg Prod.fst failed

/-- Only the last part of the work may leave the relation, and only with a result. -/
theorem Within.failsWithin_bind {reach : σ → σ → Prop} [Trans reach reach reach] {work : Work σ α}
    {next : α → Work σ β} (first : Within reach work)
    (rest : ∀ value, FailsWithin reach (next value)) : FailsWithin reach (work >>= next) := by
  intro s fault s' failed
  have begun := first s
  obtain stopped | ⟨value, between, ran, failed⟩ := run_bind_eq_error.mp failed
  · rwa [stopped] at begun
  · rw [ran] at begun
    exact Trans.trans begun (rest value between fault s' failed)

/-- Work that ends with a result whatever its first part has left. -/
theorem FailsWithin.bind_pure {reach : σ → σ → Prop} {work : Work σ α} {f : α → β}
    (first : FailsWithin reach work) :
    FailsWithin reach (work >>= fun value => pure (f value)) := by
  intro s fault s' failed
  obtain stopped | ⟨value, between, -, failed⟩ := run_bind_eq_error.mp failed
  · exact first s fault s' stopped
  · cases congrArg Prod.fst failed

/-- No fault of a class ends the work. -/
def Avoids (belongs : Fault → Bool) (work : Work σ α) : Prop :=
  ∀ s fault, (work.run s).1 = .error fault → belongs fault = false

theorem avoids_pure (belongs : Fault → Bool) (value : α) :
    Avoids belongs (pure value : Work σ α) :=
  fun _ _ failed => by cases failed

theorem avoids_ofExcept {belongs : Fault → Bool} {result : Except Fault α}
    (avoids : ∀ fault, result = .error fault → belongs fault = false) :
    Avoids belongs (ofExcept result : Work σ α) :=
  fun _ => avoids

theorem Avoids.bind {belongs : Fault → Bool} {work : Work σ α} {next : α → Work σ β}
    (first : Avoids belongs work) (rest : ∀ value, Avoids belongs (next value)) :
    Avoids belongs (work >>= next) := by
  intro s fault failed
  rw [run_bind] at failed
  rcases ran : work.run s with ⟨cause | value, between⟩ <;> rw [ran] at failed
  · obtain rfl := Except.error.inj failed
    exact first s cause (congrArg Prod.fst ran)
  · exact rest value between fault failed

theorem Avoids.onPart {belongs : Fault → Bool} {part : σ → τ} {put : σ → τ → σ} {work : Work τ α}
    (inside : Avoids belongs work) : Avoids belongs (Work.onPart part put work) :=
  fun s => inside (part s)

end JourneyCost.Work
