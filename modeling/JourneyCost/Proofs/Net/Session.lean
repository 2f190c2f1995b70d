import JourneyCost.Net.Wire
import Mathlib.Data.List.Basic

/-!
# Sessions on the wire

A session is what the wire carried between two of its states: calls in the order in which they were
sent, each with its reply.  Two wires are twins when the same replies are to come and what was sent
since some earlier time is the same.
-/

namespace JourneyCost.Net

/-- A call with what came of it. -/
structure Exchange where
  /-- The call. -/
  call : Call
  /-- What came of it. -/
  reply : Reply

namespace Wire

/-- What will come of the next call. -/
def nextReply (wire : Wire) : Reply := wire.replies.head?.getD noConnection

/-- The wire after one more call. -/
def afterCall (wire : Wire) (call : Call) : Wire :=
  { wire with replies := wire.replies.tail, sent := wire.sent ++ [call] }

@[simp] theorem run_send (call : Call) (wire : Wire) :
    (send call).run wire = (.ok wire.nextReply, wire.afterCall call) := rfl

/-- A session leads from one state of the wire to another. -/
structure Carries (before : Wire) (session : List Exchange) (after : Wire) : Prop where
  /-- Its calls were sent, in order. -/
  sent : after.sent = before.sent ++ session.map Exchange.call
  /-- As many replies were used up. -/
  replies : after.replies = before.replies.drop session.length
  /-- Each call got the reply in its place of the script. -/
  answered : ∀ (k : Nat) (exchange : Exchange), session[k]? = some exchange →
    exchange.reply = before.replies[k]?.getD noConnection

theorem Carries.refl (wire : Wire) : wire.Carries [] wire where
  sent := by rw [List.map_nil, List.append_nil]
  replies := rfl
  answered k exchange found := absurd found (by simp)

theorem carries_afterCall (wire : Wire) (call : Call) :
    wire.Carries [⟨call, wire.nextReply⟩] (wire.afterCall call) where
  sent := rfl
  replies := List.drop_one.symm
  answered k exchange found := by
    cases k with
    | zero =>
        obtain rfl := Option.some.inj found
        rw [nextReply, List.head?_eq_getElem?]
    | succ k => simp at found

theorem Carries.append {before middle after : Wire} {session more : List Exchange}
    (first : before.Carries session middle) (second : middle.Carries more after) :
    before.Carries (session ++ more) after where
  sent := by rw [second.sent, first.sent, List.map_append, List.append_assoc]
  replies := by rw [second.replies, first.replies, List.drop_drop, List.length_append]
  answered k exchange found := by
    by_cases early : k < session.length
    · rw [List.getElem?_append_left early] at found
      exact first.answered k exchange found
    · have late : session.length ≤ k := Nat.not_lt.mp early
      rw [List.getElem?_append_right late] at found
      rw [second.answered _ exchange found, first.replies, List.getElem?_drop,
        Nat.add_sub_cancel' late]

/-- Sessions do not tell which places are known. -/
theorem Carries.of_places {before after : Wire} {session : List Exchange}
    (carried : before.Carries session after) (places : List (PlaceKey × Point)) :
    before.Carries session { after with places := places } :=
  ⟨carried.sent, carried.replies, carried.answered⟩

/-- The same replies are to come, and the same was sent after what was sent before. -/
structure Twin (shared : Prop) (keeps : Bool) (before other : List Call) (left right : Wire) :
    Prop where
  /-- The same replies are to come. -/
  replies : left.replies = right.replies
  /-- One wire keeps places, or does not. -/
  first : left.keeps = keeps
  /-- So does the other. -/
  second : right.keeps = keeps
  /-- The places are the same, if they are shared. -/
  places : shared → left.places = right.places
  /-- The same calls were sent. -/
  sent : ∃ calls, left.sent = before ++ calls ∧ right.sent = other ++ calls

namespace Twin

variable {shared : Prop} {keeps : Bool} {before other : List Call} {left right : Wire}

theorem refl (wire : Wire) : Twin shared wire.keeps wire.sent wire.sent wire wire where
  replies := rfl
  first := rfl
  second := rfl
  places _ := rfl
  sent := ⟨[], by simp⟩

theorem nextReply (twin : Twin shared keeps before other left right) :
    left.nextReply = right.nextReply := by
  simp only [Wire.nextReply, twin.replies]

theorem known? (twin : Twin shared keeps before other left right) (sharing : shared)
    (key : PlaceKey) : left.known? key = right.known? key := by
  simp only [Wire.known?, twin.places sharing]

theorem afterCall (twin : Twin shared keeps before other left right) (call : Call) :
    Twin shared keeps before other (left.afterCall call) (right.afterCall call) where
  replies := congrArg List.tail twin.replies
  first := twin.first
  second := twin.second
  places := twin.places
  sent := by
    obtain ⟨calls, first, second⟩ := twin.sent
    refine ⟨calls ++ [call], ?_, ?_⟩
    · rw [Wire.afterCall, first, List.append_assoc]
    · rw [Wire.afterCall, second, List.append_assoc]

end Twin

end Wire

end JourneyCost.Net
