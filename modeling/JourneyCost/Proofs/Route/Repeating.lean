import JourneyCost.Proofs.Map.Reading
import JourneyCost.Proofs.Net.Session
import JourneyCost.Proofs.Work
import JourneyCost.Route.Resolution

/-!
# Routes found twice

On twin wires a route between two positions is found in the same way, whatever places were found
before.  A place with a name is looked up in the same way if the places are shared.
-/

namespace JourneyCost.Route

open Net Map
open Wire (Twin)
open Work (Respects)

variable {shared : Prop} {keeps : Bool} {before other : List Call} {α : Type}

/-- Work that is one call and a reading of its reply. -/
theorem respects_of_call {work : Work Wire α} {call : Call} {read : Reply → Except Fault α}
    (runs : ∀ wire, work.run wire = (read wire.nextReply, wire.afterCall call)) :
    Respects (Twin shared keeps before other) work := by
  intro left right twin
  rw [runs, runs, twin.nextReply]
  exact ⟨rfl, twin.afterCall call⟩

theorem respects_directions (client : Client) (p q : Point) :
    Respects (Twin shared keeps before other) (client.directions p q) :=
  respects_of_call (client.run_directions p q)

theorem respects_snap (client : Client) (p q : Point) :
    Respects (Twin shared keeps before other) (client.snap p q) :=
  respects_of_call (client.run_snap p q)

theorem respects_reverse (client : Client) (p : Point) :
    Respects (Twin shared keeps before other) (client.reverse p) :=
  respects_of_call (client.run_reverse p)

theorem twin_noting {left right : Wire} (twin : Twin shared keeps before other left right)
    (key : PlaceKey) (found : Except Fault (Option Point)) :
    Twin shared keeps before other
      (Client.noting key found left) (Client.noting key found right) := by
  unfold Client.noting
  split
  · rename_i place
    cases keeps with
    | false => simpa only [twin.first, twin.second, Bool.false_eq_true, if_false] using twin
    | true =>
        simp only [twin.first, twin.second, if_true]
        refine ⟨twin.replies, rfl, rfl, fun sharing => ?_, twin.sent⟩
        rw [twin.places sharing]
  · exact twin

theorem respects_lookUp (client : Client) (query : String) :
    Respects (Twin shared keeps before other) (client.lookUp query) := by
  intro left right twin
  rw [Client.run_lookUp, Client.run_lookUp, twin.nextReply]
  exact ⟨rfl, twin_noting (twin.afterCall _) _ _⟩

theorem respects_geocode (sharing : shared) (client : Client) (query : String) :
    Respects (Twin shared keeps before other) (client.geocode query) := by
  intro left right twin
  rw [Client.run_geocode, Client.run_geocode, twin.known? sharing]
  cases right.known? (client.placeKey query) with
  | some place => exact ⟨rfl, twin⟩
  | none => exact respects_lookUp client query left right twin

theorem respects_locate {endpoint : Endpoint} (client : Client)
    (settled : shared ∨ ∃ p, endpoint = .position p) :
    Respects (Twin shared keeps before other) (locate client endpoint) := by
  cases endpoint with
  | position p => exact Work.respects_pure _
  | named name =>
      rcases settled with sharing | ⟨p, isPosition⟩
      · exact respects_geocode sharing client name
      · cases isPosition

theorem respects_onRoad (client : Client) (p q : Point) :
    Respects (Twin shared keeps before other) (onRoad client p q) := by
  refine (respects_snap client p q).bind fun points => ?_
  split
  · exact Work.respects_pure _
  · exact (respects_reverse client p).bind fun start =>
      (respects_reverse client q).bind fun stop => Work.respects_pure _

theorem respects_retry (client : Client) (failed : Directions) (p q : Point) :
    Respects (Twin shared keeps before other) (retry client failed p q) := by
  unfold retry
  split
  · exact Work.respects_fail _
  · refine (respects_onRoad client p q).bind fun ends => ?_
    split
    · exact Work.respects_fail _
    · refine (respects_directions client _ _).bind fun answer => ?_
      split
      · exact Work.respects_pure _
      · exact Work.respects_fail _

theorem respects_ask (client : Client) (p q : Point) :
    Respects (Twin shared keeps before other) (ask client p q) := by
  refine (respects_directions client p q).bind fun answer => ?_
  split
  · exact Work.respects_pure _
  · exact respects_retry client answer p q

theorem respects_resolve (client : Client) {origin destination : Endpoint}
    (settled : shared ∨ ∃ p q, origin = .position p ∧ destination = .position q) :
    Respects (Twin shared keeps before other) (resolve client origin destination) := by
  have start : shared ∨ ∃ p, origin = .position p :=
    settled.imp_right fun ⟨p, _, isPosition, _⟩ => ⟨p, isPosition⟩
  have stop : shared ∨ ∃ q, destination = .position q :=
    settled.imp_right fun ⟨_, q, _, isPosition⟩ => ⟨q, isPosition⟩
  refine (respects_locate client start).bind fun first => ?_
  refine (respects_locate client stop).bind fun second => ?_
  split
  · exact (respects_ask client _ _).bind fun answer => Work.respects_ofExcept _
  · exact Work.respects_fail _

end JourneyCost.Route
