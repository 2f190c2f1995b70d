import JourneyCost.Fault
import JourneyCost.Json.Nesting

/-!
# Shallow documents

The number of open lists and objects depends on the lexemes alone, as long as they make sense.  So a
reader with bounded room gets through a document that is not nested beyond it.
-/

namespace JourneyCost.Json

variable {stack : List Frame} {value : Json} {machine next : Machine} {token : Token}
  {tokens : List Token} {room : Nat}

namespace Machine

@[simp] theorem length_accept (stack : List Frame) (value : Json) :
    (accept stack value).stack.length = stack.length := by
  match stack with
  | [] | .list _ :: _ | .object .. :: _ => rfl

theorem length_begin (begun : begin stack token = .ok next) :
    next.stack.length = levelAfter stack.length token := by
  cases token with
  | openObject | openList =>
      obtain rfl := Except.ok.inj begun
      rfl
  | quoted | scalar =>
      obtain rfl := Except.ok.inj begun
      exact length_accept _ _
  | fault | closeObject | closeList | colon | comma => simp [begin] at begun

/-- A lexeme opens one list or object, closes one, or leaves their number as it is. -/
theorem length_step (stepped : machine.step token = .ok next) :
    next.stack.length = levelAfter machine.stack.length token := by
  unfold step at stepped
  split at stepped
  case h_1 | h_3 => exact length_begin stepped
  case h_12 => simp at stepped
  all_goals obtain rfl := Except.ok.inj stepped
  case h_7 => rfl
  all_goals simp [levelAfter, *]

theorem le_depthFrom (level : Nat) (tokens : List Token) : level ≤ depthFrom level tokens := by
  cases tokens with
  | nil => exact Nat.le_refl level
  | cons => exact Nat.le_max_left _ _

/-- As long as the room is enough for the lexemes to come, it does not matter. -/
theorem foldlM_stepWithin (enough : depthFrom machine.stack.length tokens ≤ room) :
    tokens.foldlM (stepWithin room) machine =
      (tokens.foldlM step machine).mapError Stop.fault := by
  induction tokens generalizing machine with
  | nil => rfl
  | cons token rest induction =>
      rw [List.foldlM_cons, List.foldlM_cons, stepWithin]
      cases stepped : machine.step token with
      | error cause => rfl
      | ok next =>
          have later : depthFrom next.stack.length rest ≤ room := by
            rw [length_step stepped]
            exact Nat.le_trans (Nat.le_max_right _ _) enough
          have here : next.stack.length ≤ room := Nat.le_trans (le_depthFrom _ _) later
          simp only [if_neg (Nat.not_lt.mpr here)]
          exact induction later

end Machine

/-- A reader with enough room reads lexemes like one without a bound. -/
theorem fitsIn_of_depth (enough : depthFrom 0 tokens ≤ room) : FitsIn room tokens := by
  have start : depthFrom Machine.start.stack.length tokens ≤ room := enough
  rw [FitsIn, ofTokensWithin, ofTokens, Machine.foldlM_stepWithin start]
  cases tokens.foldlM Machine.step .start with
  | error cause => rfl
  | ok last =>
      obtain ⟨stack, expect⟩ := last
      cases expect <;> rfl

/-- Shallow lexemes are read alike by all readers with room up to the limit. -/
theorem fitsIn_of_isShallow (shallow : IsShallow tokens) : FitsIn nestingLimit tokens :=
  fitsIn_of_depth shallow

end JourneyCost.Json
