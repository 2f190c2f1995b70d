import JourneyCost.Proofs.Service.Answers
import JourneyCost.Proofs.Trip.Reporting

/-!
# Payloads that differ in some members

A server that is asked for two estimates between the same ends sends the same calls for both.  What
a member of the payload is about is all that a change of the member changes in the report.
-/

namespace JourneyCost.Service

open Data Net Trip

/-- A payload in a message is answered with an estimate. -/
structure Estimated (server : Server) (message : Message) (payload : Fields) (report : Json)
    (after : Server) : Prop where
  /-- The message is sent to the path of estimates. -/
  aimed : percentDecode message.path.toList = Server.tripPath
  /-- It has the payload. -/
  carried : message.payload = .ok (.object payload)
  /-- The answer is the report of an estimate. -/
  answered : (Server.answer message).run server = (.ok (.json 200 report), after)

variable {server after left right : Server} {message : Message} {p q payload : Fields}
  {a b report : Json}

theorem status_faultAnswer (fault : Fault) : (faultAnswer fault).status ≠ 200 := by
  unfold faultAnswer
  split <;> simp [Answer.error, Answer.json]

theorem estimateAnswer_eq_ok {outcome : Except Fault Trip.Estimate}
    (answered : Server.estimateAnswer outcome = .json 200 report) :
    ∃ estimate, outcome = .ok estimate ∧ report = estimate.report := by
  cases outcome with
  | error fault => exact absurd (congrArg Answer.status answered) (status_faultAnswer fault)
  | ok estimate =>
      injection answered with _ document
      exact ⟨estimate, rfl, (Option.some.inj document).symm⟩

/-- An estimate was made by the planner in force for the request in the payload. -/
theorem Estimated.exists_estimate (estimated : Estimated server message payload report after) :
    ∃ request planner estimate, Request.read (.object payload) = .ok (.fine request) ∧
      server.plannerInForce = .ok planner ∧ report = estimate.report ∧
      (planner.estimate server.sources request).run server.desk = (.ok estimate, after.desk) := by
  obtain ⟨content, -, ran⟩ := Work.run_ofExcept_bind_eq_ok.mp estimated.answered
  have elsewhere : (Server.tripPath == Server.healthPath) = false := by decide
  simp only [Server.answerPath, estimated.aimed, elsewhere, beq_self_eq_true, if_true,
    Bool.false_eq_true, if_false] at ran
  split at ran
  · rw [Server.run_answerTrip, estimated.carried] at ran
    simp only [Server.run_answerFields] at ran
    cases read : Request.read (.object payload) with
    | error fault => simp [read] at ran
    | ok checked =>
        cases checked with
        | flawed flaws => simp [read, flawedAnswer, Answer.error, Answer.json] at ran
        | fine request =>
            rw [read] at ran
            simp only [Server.run_answerRequest] at ran
            cases inForce : server.plannerInForce with
            | error fault => simp [inForce] at ran
            | ok planner =>
                rw [inForce] at ran
                obtain ⟨answered, rfl⟩ := Prod.mk.inj ran
                obtain ⟨estimate, outcome, rfl⟩ := estimateAnswer_eq_ok (Except.ok.inj answered)
                exact ⟨request, planner, estimate, rfl, rfl, rfl, Prod.ext outcome rfl⟩
  · simp [Answer.notAllowed, Answer.json] at ran

/-- A payload that is answered with an estimate selects the ends of a journey. -/
theorem Estimated.exists_selects (estimated : Estimated server message payload report after) :
    ∃ origin destination, Selects payload origin destination := by
  obtain ⟨request, planner, estimate, read, -, -, ran⟩ := estimated.exists_estimate
  obtain ⟨origin, start, destination, stop, given⟩ := ends_of_run (run_estimate_eq_ok ran)
  exact ⟨origin, destination, request, start, stop, read, given⟩

/-- Two payloads that select the same ends are estimated with the same calls, and all that changes
with the vehicle, with the costs of fuel or with the extras is what the report says of them. -/
theorem reports_agreeExcept {m n : Message} {origin destination : Endpoint}
    (first : Estimated server m p a left) (second : Estimated server n q b right)
    (selects : Selects p origin destination) (selectsToo : Selects q origin destination) :
    right.desk.wire.sent = left.desk.wire.sent ∧
      (DifferOnlyIn ["vehicle_type"] p q → Json.AgreeExcept vehiclePaths a b) ∧
      (DifferOnlyIn fuelKeys p q → Json.AgreeExcept fuelPaths a b) ∧
      (DifferOnlyIn extrasKeys p q → Json.AgreeExcept extrasPaths a b) := by
  obtain ⟨r, planner, e, read, inForce, rfl, ran⟩ := first.exists_estimate
  obtain ⟨s, planner', e', read', inForce', rfl, ran'⟩ := second.exists_estimate
  obtain rfl := Except.ok.inj (inForce.symm.trans inForce')
  obtain ⟨r', start, stop, same, ends⟩ := selects
  obtain rfl := Checked.fine.inj (Except.ok.inj (read.symm.trans same))
  obtain ⟨s', start', stop', same', ends'⟩ := selectsToo
  obtain rfl := Checked.fine.inj (Except.ok.inj (read'.symm.trans same'))
  obtain ⟨wire, library, one⟩ := computed_of_run ends (run_estimate_eq_ok ran)
  obtain ⟨wire', library', other⟩ := computed_of_run ends' (run_estimate_eq_ok ran')
  have reads := Request.isReadFrom_of_read read
  have readsToo := Request.isReadFrom_of_read read'
  refine ⟨?_, one.agreeExcept_vehicle other reads readsToo,
    one.agreeExcept_fuel other reads readsToo, one.agreeExcept_extras other reads readsToo⟩
  rw [one.sameWire other]

/-- The report in an answer. -/
def Answer.report? : Answer → Option Json
  | ⟨200, some document, none⟩ => some document
  | _ => none

theorem Answer.eq_of_report? {answer : Answer} (found : answer.report? = some report) :
    answer = .json 200 report := by
  unfold Answer.report? at found
  split at found
  · obtain rfl := Option.some.inj found
    rfl
  · cases found

theorem exists_estimated (server : Server) (trip : IsTripPost message)
    (carried : message.payload = .ok (.object payload))
    (given : ((((Server.answerFields payload).run server).1).toOption.bind Answer.report?).isSome) :
    ∃ report after, Estimated server message payload report after := by
  obtain ⟨report, given⟩ := Option.isSome_iff_exists.mp given
  obtain ⟨answer, answered, found⟩ := Option.bind_eq_some_iff.mp given
  obtain rfl := Answer.eq_of_report? found
  have outcome := toOption_eq_some_iff.mp answered
  have ran := run_answer_of_object trip carried server
  exact ⟨report, _, trip.aimed, carried, ran.trans (Prod.ext outcome rfl)⟩

/-- A post for a journey between two positions, with its payload in the address. -/
def journeyPost (mileage : String) : Message :=
  { posted [] with
    query := "start_coord=28,77&dest_coord=27,76&vehicle_type=car&fuel_price=100&" ++
      "kilometers_per_day=400&mileage=" ++ mileage }

/-- The payload of the post. -/
def journeyFields (mileage : String) : Fields :=
  [("start_coord", .text "28,77"), ("dest_coord", .text "27,76"), ("vehicle_type", .text "car"),
    ("fuel_price", .text "100"), ("kilometers_per_day", .text "400"), ("mileage", .text mileage)]

theorem isTripPost_journeyPost (mileage : String) : IsTripPost (journeyPost mileage) :=
  isTripPost_of_declared rfl aimed_tripPath rfl

theorem payload_journeyPost (mileage : String)
    (few : hasTooManyFields (journeyPost mileage).query = false)
    (read : formFields (journeyPost mileage).query = [("start_coord", "28,77"),
      ("dest_coord", "27,76"), ("vehicle_type", "car"), ("fuel_price", "100"),
      ("kilometers_per_day", "400"), ("mileage", mileage)]) :
    (journeyPost mileage).payload = .ok (.object (journeyFields mileage)) := by
  rw [payload_of_declared (isTripPost_journeyPost mileage) rfl]
  refine (if_pos rfl).trans ?_
  rw [queryPayload_of_not_crowded few, read]
  rfl

theorem differOnlyIn_journeyFields (mileage other : String) :
    DifferOnlyIn fuelKeys (journeyFields mileage) (journeyFields other) := by
  intro key apart
  have notMileage : key ≠ "mileage" := by
    rintro rfl
    exact apart (by decide)
  simp [journeyFields, Fields.find?_cons, notMileage]

/-- A server with a reply to come that gives a route of a hundred kilometres. -/
def journeyServer : Server :=
  let text := "\x7b\"routes\":[\x7b\"summary\":\x7b\"distance\":100000\x7d," ++
    "\"geometry\":[[77,28]]\x7d]\x7d"
  ⟨{}, .empty, ⟨Wire.start [.answer 200 (Text.toBytes text)] true,
    { Library.empty with plazas := ⟨[(({} : Settings).tollPath, [])]⟩ }⟩, none⟩

/-- The journey with a mileage of fifteen is answered with an estimate. -/
theorem exists_estimated_journey : ∃ report after,
    Estimated journeyServer (journeyPost "15") (journeyFields "15") report after :=
  exists_estimated journeyServer (isTripPost_journeyPost "15")
    (payload_journeyPost "15" (by decide +kernel) (by decide +kernel)) (by decide +kernel)

/-- Two journeys that differ in the mileage. -/
theorem reports_agreeExcept_mileage :
    ∃ a b left right origin destination,
      Estimated journeyServer (journeyPost "15") (journeyFields "15") a left ∧
      Estimated journeyServer (journeyPost "20") (journeyFields "20") b right ∧
      Selects (journeyFields "15") origin destination ∧
      Selects (journeyFields "20") origin destination ∧
      right.desk.wire.sent = left.desk.wire.sent ∧ Json.AgreeExcept fuelPaths a b := by
  have carriedToo := payload_journeyPost "20" (by decide +kernel) (by decide +kernel)
  obtain ⟨a, left, first⟩ := exists_estimated_journey
  obtain ⟨b, right, second⟩ := exists_estimated journeyServer (isTripPost_journeyPost "20")
    carriedToo (by decide +kernel)
  have differ := differOnlyIn_journeyFields "15" "20"
  obtain ⟨origin, destination, selects⟩ := first.exists_selects
  obtain ⟨request, -, -, read, -⟩ := second.exists_estimate
  have selectsToo := selects.of_agree read (differ.agree (by decide))
  obtain ⟨sent, -, fuel, -⟩ := reports_agreeExcept first second selects selectsToo
  exact ⟨a, b, left, right, origin, destination, first, second, selects, selectsToo, sent,
    fuel differ⟩

end JourneyCost.Service
