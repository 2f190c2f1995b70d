import JourneyCost.Json.Encoding
import JourneyCost.Proofs.Json.Lexeme

/-!
# Why a text is no document

A text is refused because it is no document or because an integer in it has too many digits; bytes
may also be no text.  All of these are faults of form, so a reader that forgives what is malformed
is never refused.
-/

namespace JourneyCost.Json

/-- What can be wrong with the lexemes of a text. -/
def IsRefusal (cause : Fault) : Prop := cause = .malformedDocument ∨ cause = .malformed

theorem isRefusal_of_mem_tokensFrom {mode : Mode} {cs : List Char} {cause : Fault}
    (member : .fault cause ∈ tokensFrom mode cs) : IsRefusal cause := by
  cases occurs_of_mem_tokensFrom member with
  | mark c here => exact absurd here (by unfold punctuation?; split <;> simp)
  | broken => exact .inl rfl
  | overlong => exact .inr rfl

/-- A lexeme stops the reading by its own cause, or because it may not stand where it does. -/
theorem isRefusal_of_step {machine : Machine} {token : Token} {cause : Fault}
    (sound : ∀ own, token = .fault own → IsRefusal own)
    (stopped : machine.step token = .error cause) : IsRefusal cause := by
  have begun : ∀ stack, Machine.begin stack token = .error cause → IsRefusal cause := by
    intro stack refused
    cases token with
    | fault own =>
        obtain rfl : own = cause := by simpa [Machine.begin] using refused
        exact sound own rfl
    | openObject | openList | quoted value | scalar value => simp [Machine.begin] at refused
    | closeObject | closeList | colon | comma =>
        exact .inl (Except.error.inj refused).symm
  unfold Machine.step at stopped
  split at stopped
  case h_1 | h_3 => exact begun _ stopped
  case h_12 => exact .inl (Except.error.inj stopped).symm
  all_goals simp at stopped

theorem isRefusal_of_foldlM {machine : Machine} {tokens : List Token} {cause : Fault}
    (sound : ∀ own, .fault own ∈ tokens → IsRefusal own)
    (stopped : tokens.foldlM Machine.step machine = .error cause) : IsRefusal cause := by
  induction tokens generalizing machine with
  | nil => simp [pure, Except.pure] at stopped
  | cons token rest induction =>
      rw [List.foldlM_cons, bind_eq_error] at stopped
      rcases stopped with here | ⟨next, -, later⟩
      · exact isRefusal_of_step (fun own same => sound own (by simp [same])) here
      · exact induction (fun own member => sound own (List.mem_cons_of_mem token member)) later

theorem isRefusal_of_ofTokens {cs : List Char} {cause : Fault}
    (refused : ofTokens (tokens cs) = .error cause) : IsRefusal cause := by
  unfold ofTokens at refused
  rw [bind_eq_error] at refused
  rcases refused with stopped | ⟨machine, -, unfinished⟩
  · exact isRefusal_of_foldlM (fun own => isRefusal_of_mem_tokensFrom) stopped
  · split at unfinished
    · simp at unfinished
    · exact .inl (Except.error.inj unfinished).symm

theorem IsRefusal.isMalformed {cause : Fault} (refusal : IsRefusal cause) :
    cause.isMalformed = true := by
  rcases refusal with rfl | rfl <;> rfl

theorem isRefusal_of_read {s : String} {cause : Fault} (refused : read s = .error cause) :
    IsRefusal cause :=
  isRefusal_of_ofTokens refused

/-- Bytes are refused for what is wrong with the text in them, or because there is none. -/
theorem readBytes_eq_error {bytes : Bytes} {cause : Fault}
    (refused : readBytes bytes = .error cause) : IsRefusal cause ∨ cause = .malformedText := by
  unfold readBytes at refused
  simp only at refused
  split at refused
  · exact .inl (isRefusal_of_ofTokens refused)
  · exact .inr (Except.error.inj refused).symm

theorem isMalformed_of_readBytes {bytes : Bytes} {cause : Fault}
    (refused : readBytes bytes = .error cause) : cause.isMalformed = true := by
  rcases readBytes_eq_error refused with refusal | rfl
  · exact refusal.isMalformed
  · rfl

end JourneyCost.Json
