import JourneyCost.Proofs.Data.Staleness
import JourneyCost.Proofs.Service.Frame
import JourneyCost.Proofs.Service.Independence
import JourneyCost.Proofs.Service.Standard

/-!
# Operations of the service

A server answers requests, is put under other settings, and has its files, its data sets, its places
and its planner changed, in any order.  Whatever is done, a planner is made by valid requests alone:
by the first one for which the settings then in force allow it.
-/

namespace JourneyCost.Service

open Data Net Trip
open Work (Within)

/-- What can be done with a server. -/
inductive Operation where
  /-- A request is answered. -/
  | request (message : Message)
  /-- Other settings come into force. -/
  | configure (settings : Settings)
  /-- Something happens to the files or to the library. -/
  | archive (event : Event)
  /-- The places that were found are forgotten. -/
  | forgetPlaces
  /-- The planner is dropped. -/
  | reset

/-- A message is a valid request. -/
structure Requests (message : Message) (request : Request) : Prop where
  /-- Its content type can be read, and the form in its address in the set that is declared. -/
  readable : ∃ contentType, message.content = .ok contentType
  /-- It asks for an estimate, and nothing is wrong with the payload. -/
  valid : ∃ fields, Asks message fields ∧ Request.read (.object fields) = .ok (.fine request)

/-- A message asks for a report on health. -/
def Message.asksHealth (message : Message) : Bool :=
  percentDecode message.path.toList == Server.healthPath

namespace Server

/-- The server after an operation. -/
def perform (server : Server) : Operation → Server
  | .request message => ((answer message).run server).2
  | .configure settings => server.configure settings
  | .archive event =>
    let archive := Archive.apply ⟨server.files, server.desk.library⟩ event
    { server with
      files := archive.files
      desk := { server.desk with library := archive.library } }
  | .forgetPlaces => server.forgetPlaces
  | .reset => { server with planner := none }

/-- The server after a run. -/
def through (server : Server) (operations : List Operation) : Server :=
  operations.foldl perform server

/-- The answer to an operation, if it is a request for anything but a report on health. -/
def gives (server : Server) : Operation → List (Except Fault Answer)
  | .request message => if message.asksHealth then [] else [((answer message).run server).1]
  | _ => []

/-- The answers in a run. -/
def answers (server : Server) : List Operation → List (Except Fault Answer)
  | [] => []
  | operation :: rest => server.gives operation ++ (server.perform operation).answers rest

/-- A planner can be made for a message: it is a valid request, and the settings in force allow
it. -/
def CanMake (server : Server) (message : Message) (planner : Planner) : Prop :=
  (∃ request, Requests message request) ∧ Planner.create server.settings = .ok planner

/-- The planner that is made for the first message of a run for which one can be made. -/
inductive Makes : Server → List Operation → Planner → Prop
  /-- One can be made for the first message. -/
  | now {server : Server} {message : Message} {rest : List Operation} {planner : Planner} :
      CanMake server message planner → Makes server (.request message :: rest) planner
  /-- The first operation is something else, or none can be made for it. -/
  | later {server : Server} {operation : Operation} {rest : List Operation} {planner : Planner} :
      (∀ message made, operation = .request message → ¬ CanMake server message made) →
      Makes (server.perform operation) rest planner → Makes server (operation :: rest) planner

variable {server : Server} {operations : List Operation} {message : Message} {planner : Planner}

theorem through_cons (server : Server) (operation : Operation) (rest : List Operation) :
    server.through (operation :: rest) = (server.perform operation).through rest := rfl

/-- Nothing but the library is changed. -/
def Reads (before after : Server) : Prop :=
  ∃ library, after = { before with desk := { before.desk with library := library } }

theorem Reads.refl (server : Server) : Reads server server := ⟨server.desk.library, rfl⟩

theorem Reads.trans {between after : Server} (first : Reads server between)
    (second : Reads between after) : Reads server after := by
  obtain ⟨_, rfl⟩ := first
  obtain ⟨library, rfl⟩ := second
  exact ⟨library, rfl⟩

instance : Trans Reads Reads Reads := ⟨Reads.trans⟩

theorem reads_healthUnder (settings : Settings) (files : Files) :
    Within Reads (healthUnder settings files) := by
  refine Within.bind (fun server => ⟨_, rfl⟩) fun plazas => ?_
  refine Within.bind (fun server => ⟨_, rfl⟩) fun prices => ?_
  exact Reads.refl

theorem run_answerHealth (server : Server) :
    answerHealth.run server = (healthUnder server.settings server.files).run server := rfl

theorem plannerInForce_eq_ok_iff : server.plannerInForce = .ok planner ↔
    server.planner = some planner ∨
      server.planner = none ∧ Planner.create server.settings = .ok planner := by
  unfold Server.plannerInForce
  cases server.planner <;> simp

theorem planner_answerRequest (request : Request) :
    ((answerRequest request).run server).2.planner = some planner ↔
      server.plannerInForce = .ok planner := by
  rw [run_answerRequest]
  cases inForce : server.plannerInForce with
  | ok made => simp [afterEstimate]
  | error fault =>
      have unplanned : server.planner ≠ some planner := fun planned => by
        rw [plannerInForce_eq_ok_iff.mpr (.inl planned)] at inForce
        cases inForce
      simpa using unplanned

/-- No planner is made for a message that is no valid request. -/
theorem planner_of_invalid (invalid : ∀ request, ¬ Requests message request) :
    server.planner = some planner ↔
      server.planner = some planner ∨ server.planner = none ∧ CanMake server message planner :=
  (or_iff_left fun ⟨_, ⟨_, valid⟩, _⟩ => invalid _ valid).symm

theorem planner_answerTrip (readable : ∃ contentType, message.content = .ok contentType)
    (posted : message.method = "POST")
    (aimed : percentDecode message.path.toList = Server.tripPath) :
    ((answerTrip message).run server).2.planner = some planner ↔
      server.planner = some planner ∨ server.planner = none ∧ CanMake server message planner := by
  have invalid {payload : Payload} (carried : message.payload = .ok payload)
      (noObject : ∀ fields, payload ≠ .object fields) : ∀ request, ¬ Requests message request := by
    rintro request ⟨-, fields, asks, -⟩
    exact noObject fields (Except.ok.inj (carried.symm.trans asks.carried))
  rw [run_answerTrip]
  cases carried : message.payload with
  | error fault =>
      refine planner_of_invalid ?_
      rintro request ⟨-, fields, asks, -⟩
      cases carried.symm.trans asks.carried
  | ok payload =>
      cases payload with
      | noDocument | noObject | refused => exact planner_of_invalid (invalid carried nofun)
      | object fields =>
          have asks : Asks message fields := ⟨posted, aimed, carried⟩
          have unsound (unread : ∀ request, Request.read (.object fields) ≠ .ok (.fine request)) :
              ∀ request, ¬ Requests message request := by
            rintro request ⟨-, others, asked, fine⟩
            rw [asked.unique asks] at fine
            exact unread request fine
          simp only [run_answerFields]
          cases read : Request.read (.object fields) with
          | error fault => exact planner_of_invalid (unsound fun request => by rw [read]; nofun)
          | ok checked =>
              cases checked with
              | flawed flaws =>
                  exact planner_of_invalid (unsound fun request => by rw [read]; nofun)
              | fine request =>
                  have valid : ∃ request, Requests message request :=
                    ⟨request, readable, fields, asks, read⟩
                  simp only [planner_answerRequest, plannerInForce_eq_ok_iff, CanMake, valid,
                    true_and]

/-- A message leaves a planner that was there, and makes one when it is a valid request and the
settings allow it. -/
theorem planner_answer (message : Message) :
    ((answer message).run server).2.planner = some planner ↔
      server.planner = some planner ∨ server.planner = none ∧ CanMake server message planner := by
  rw [answer, Work.run_bind, Work.run_ofExcept]
  cases typed : message.content with
  | error fault =>
      refine planner_of_invalid ?_
      rintro request ⟨⟨content, readable⟩, -⟩
      cases typed.symm.trans readable
  | ok content =>
      simp only [answerPath]
      split
      · rename_i toHealth
        have invalid : ∀ request, ¬ Requests message request := by
          rintro request ⟨-, fields, asks, -⟩
          rw [asks.aimed] at toHealth
          exact absurd toHealth (by decide)
        split
        · obtain ⟨library, read⟩ := reads_healthUnder server.settings server.files server
          rw [run_answerHealth, read]
          exact planner_of_invalid invalid
        · exact planner_of_invalid invalid
      · split
        · rename_i aimed
          split
          · rename_i posted
            exact planner_answerTrip ⟨content, typed⟩ (eq_of_beq posted) (eq_of_beq aimed)
          · rename_i otherwise
            refine planner_of_invalid ?_
            rintro request ⟨-, fields, asks, -⟩
            exact otherwise (beq_iff_eq.mpr asks.posted)
        · rename_i elsewhere
          refine planner_of_invalid ?_
          rintro request ⟨-, fields, asks, -⟩
          exact elsewhere (beq_iff_eq.mpr asks.aimed)

theorem planner_perform (operation : Operation) (kept : operation ≠ .reset) :
    (server.perform operation).planner = some planner ↔
      server.planner = some planner ∨ server.planner = none ∧
        ∃ message, operation = .request message ∧ CanMake server message planner := by
  cases operation with
  | request message => simpa [perform] using planner_answer message
  | configure | archive | forgetPlaces => simp [perform, Server.configure, Server.forgetPlaces]
  | reset => exact absurd rfl kept

theorem planner_through_of_planned (planned : server.planner = some planner)
    (kept : .reset ∉ operations) : (server.through operations).planner = some planner := by
  induction operations generalizing server with
  | nil => exact planned
  | cons operation rest induction =>
      obtain ⟨first, later⟩ := List.ne_and_not_mem_of_not_mem_cons kept
      exact induction ((planner_perform operation first.symm).mpr (.inl planned)) later

/-- Until the planner is dropped, there is one exactly from the first message on for which one can
be made. -/
theorem planner_through_iff (unplanned : server.planner = none) (kept : .reset ∉ operations) :
    (server.through operations).planner = some planner ↔ Makes server operations planner := by
  induction operations generalizing server with
  | nil =>
      refine iff_of_false ?_ nofun
      rw [through, List.foldl_nil, unplanned]
      nofun
  | cons operation rest induction =>
      obtain ⟨first, later⟩ := List.ne_and_not_mem_of_not_mem_cons kept
      have after (made : Planner) : (server.perform operation).planner = some made ↔ _ :=
        planner_perform operation first.symm
      by_cases able : ∃ message made, operation = .request message ∧ CanMake server message made
      · obtain ⟨message, made, rfl, makes⟩ := able
        have planned := (after made).mpr (.inr ⟨unplanned, message, rfl, makes⟩)
        rw [through_cons, planner_through_of_planned planned later, Option.some.injEq]
        constructor
        · rintro rfl
          exact .now makes
        · intro others
          cases others with
          | now other => exact Except.ok.inj (makes.2.symm.trans other.2)
          | later unable => exact absurd makes (unable message made rfl)
      · have unplannedAfter : (server.perform operation).planner = none := by
          refine Option.eq_none_iff_forall_ne_some.mpr fun made planned => ?_
          rcases (after made).mp planned with before | ⟨-, message, isRequest, makes⟩
          · rw [unplanned] at before
            cases before
          · exact able ⟨message, made, isRequest, makes⟩
        refine (induction unplannedAfter later).trans
          ⟨fun makes => .later ?_ makes, fun makes => ?_⟩
        · exact fun message made isRequest can => able ⟨message, made, isRequest, can⟩
        · cases makes with
          | now can => exact absurd ⟨_, _, rfl, can⟩ able
          | later _ makes => exact makes

theorem exists_requests_journey : ∃ request, Requests (journeyPost "15") request := by
  obtain ⟨report, after, estimated⟩ := exists_estimated_journey
  obtain ⟨content, readable, -⟩ := Work.run_ofExcept_bind_eq_ok.mp estimated.answered
  obtain ⟨request, planner, estimate, read, -⟩ := estimated.exists_estimate
  exact ⟨request, ⟨content, readable⟩, _, ⟨rfl, estimated.aimed, estimated.carried⟩, read⟩

end Server

end JourneyCost.Service
