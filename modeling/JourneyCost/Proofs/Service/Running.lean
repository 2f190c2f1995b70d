import JourneyCost.Service.Server

/-!
# Runs of the service

Each operation of the service as one equation: what it gives, and the server after it.  Callers
cite these equations and do not open the operations.
-/

namespace JourneyCost.Service.Server

open Trip

/-- The planner that valid requests are answered with. -/
def plannerInForce (server : Server) : Except Fault Planner :=
  match server.planner with
  | some planner => .ok planner
  | none => Planner.create server.settings

theorem run_onDesk {α : Type} (work : Work Desk α) (server : Server) :
    (onDesk work).run server =
      ((work.run server.desk).1, { server with desk := (work.run server.desk).2 }) := rfl

theorem run_obtainPlanner (server : Server) :
    obtainPlanner.run server =
      match server.plannerInForce with
      | .error fault => (.error fault, server)
      | .ok planner => (.ok planner, { server with planner := some planner }) := by
  rw [obtainPlanner, Work.run_bind, Work.run_look]
  unfold plannerInForce
  cases kept : server.planner with
  | some planner =>
      have same : { server with planner := some planner } = server := by rw [← kept]
      simp only [kept, Work.run_pure, same]
  | none =>
      simp only [kept, Work.run_bind, Work.run_ofExcept]
      cases Planner.create server.settings with
      | error fault => rfl
      | ok planner => rfl

/-- The answer to a valid request, by what its estimate came to. -/
def estimateAnswer : Except Fault Estimate → Answer
  | .ok estimate => .json 200 estimate.report
  | .error fault => faultAnswer fault

/-- The server after an estimate. -/
def afterEstimate (server : Server) (planner : Planner) (request : Request) : Server :=
  { server with
    planner := some planner
    desk := ((planner.estimate server.sources request).run server.desk).2 }

section

variable (server : Server) (planner : Planner) (request : Request)

@[simp] theorem settings_afterEstimate :
    (server.afterEstimate planner request).settings = server.settings := rfl

@[simp] theorem files_afterEstimate :
    (server.afterEstimate planner request).files = server.files := rfl

@[simp] theorem desk_afterEstimate :
    (server.afterEstimate planner request).desk =
      ((planner.estimate server.sources request).run server.desk).2 := rfl

@[simp] theorem plannerInForce_afterEstimate :
    (server.afterEstimate planner request).plannerInForce = .ok planner := rfl

end

theorem run_answerRequest (request : Request) (server : Server) :
    (answerRequest request).run server =
      match server.plannerInForce with
      | .error fault => (.error fault, server)
      | .ok planner =>
        (.ok (estimateAnswer ((planner.estimate server.sources request).run server.desk).1),
          server.afterEstimate planner request) := by
  rw [answerRequest, Work.run_bind, run_obtainPlanner]
  cases server.plannerInForce with
  | error fault => rfl
  | ok planner =>
      simp only [Work.run_bind, Work.run_look, Work.run_tryCatch, run_onDesk, Work.run_pure]
      have sources : { server with planner := some planner }.sources = server.sources := rfl
      rw [sources, afterEstimate]
      generalize (planner.estimate server.sources request).run server.desk = ran
      rcases ran with ⟨fault | estimate, desk⟩
      · rfl
      · rfl

theorem run_answerFields (fields : Fields) (server : Server) :
    (answerFields fields).run server =
      match Request.read (.object fields) with
      | .error fault => (.error fault, server)
      | .ok (.flawed flaws) => (.ok (flawedAnswer flaws), server)
      | .ok (.fine request) => (answerRequest request).run server := by
  rw [answerFields, Work.run_bind, Work.run_ofExcept]
  cases Request.read (.object fields) with
  | error fault => rfl
  | ok checked =>
      cases checked with
      | fine request => rfl
      | flawed flaws => rfl

theorem run_answerTrip (message : Message) (server : Server) :
    (answerTrip message).run server =
      match message.payload with
      | .error fault => (.error fault, server)
      | .ok (.object fields) => (answerFields fields).run server
      | .ok .noDocument =>
        (.ok (.error 400 (errorFields "invalid_json" "Request body must be valid JSON")), server)
      | .ok .noObject =>
        (.ok (.error 400 (errorFields "invalid_json" "JSON body must be an object")), server)
      | .ok .refused => (.ok (.page 400), server) := by
  rw [answerTrip, Work.run_bind, Work.run_ofExcept]
  cases message.payload with
  | error fault => rfl
  | ok payload => cases payload <;> rfl

/-- The document that reports on the health of the service. -/
def healthDocument (provider : String) (plazas prices : Int) : Json :=
  .object [("status", .text "ok"), ("provider", .text provider),
    ("datasets", .object [("toll_plazas", .int plazas), ("fuel_prices", .int prices)])]

/-- What kind of answer a message was given. -/
inductive AnsweredAs (server : Server) (message : Message) (given : Answer) (after : Server) : Prop
  /-- The answer has no document. -/
  | page : given.document = none → AnsweredAs server message given after
  /-- The answer is a report on the health of the service. -/
  | health {provider : String} {plazas prices : Int} :
      percentDecode message.path.toList = healthPath →
      given = .json 200 (healthDocument provider plazas prices) →
      AnsweredAs server message given after
  /-- The message asks for an estimate. -/
  | trip : message.method = "POST" → percentDecode message.path.toList = tripPath →
      (answerTrip message).run server = (.ok given, after) → AnsweredAs server message given after

theorem answeredAs_of_run {server after : Server} {message : Message} {given : Answer}
    (ran : (answer message).run server = (.ok given, after)) :
    AnsweredAs server message given after := by
  obtain ⟨content, -, ran⟩ := Work.run_ofExcept_bind_eq_ok.mp ran
  unfold answerPath at ran
  split at ran
  · rename_i toHealth
    split at ran
    · obtain ⟨server, between, -, ran⟩ := Work.run_bind_eq_ok.mp ran
      obtain ⟨plazas, between, -, ran⟩ := Work.run_bind_eq_ok.mp ran
      obtain ⟨prices, between, -, ran⟩ := Work.run_bind_eq_ok.mp ran
      obtain rfl := Except.ok.inj (Prod.mk.inj ran).1
      exact .health (eq_of_beq toHealth) rfl
    · obtain rfl := Except.ok.inj (Prod.mk.inj ran).1
      exact .page rfl
  · split at ran
    · rename_i toTrip
      split at ran
      · rename_i posted
        exact .trip (eq_of_beq posted) (eq_of_beq toTrip) ran
      · obtain rfl := Except.ok.inj (Prod.mk.inj ran).1
        exact .page rfl
    · obtain rfl := Except.ok.inj (Prod.mk.inj ran).1
      exact .page rfl

end Server

end JourneyCost.Service
