import JourneyCost.Proofs.Service.Frame
import JourneyCost.Proofs.Trip.Accepted

/-!
# Requests that are refused

A request is refused when its body is no object, when a field of it is flawed, and when one of its
figures is not positive.  Whoever is refused has caused no call to the map service, and nobody is
refused after one.
-/

namespace JourneyCost.Service

open Net Trip

/-- The code of the error that an answer gives. -/
def Answer.errorCode? (answer : Answer) : Option String := do
  let error ← (← (← answer.document).fields?).find? "error"
  match (← error.fields?).find? "code" with
  | some (.text code) => some code
  | _ => none

/-- The codes of errors by which requests are refused. -/
def refusalCodes : List String := ["invalid_json", "validation_error", "invalid_input"]

variable {server after : Server} {message : Message} {given : Answer} {request : Request}
  {fields : Fields} {fault : Fault} {code : String}

theorem errorCode?_report (estimate : Estimate) :
    (Answer.json 200 estimate.report).errorCode? = none := rfl

theorem isInvalidInput_of_errorCode? (refusal : code ∈ refusalCodes)
    (coded : (faultAnswer fault).errorCode? = some code) :
    fault.isInvalidInput = true := by
  cases fault with
  | invalidInput | invalidMileage => rfl
  | _ =>
      obtain rfl := Option.some.inj coded
      simp [refusalCodes] at refusal

/-- Only requests for an estimate are answered with an error. -/
theorem run_answerTrip_of_errorCode? (ran : (Server.answer message).run server = (.ok given, after))
    (coded : given.errorCode? = some code) :
    (Server.answerTrip message).run server = (.ok given, after) := by
  cases Server.answeredAs_of_run ran with
  | page none =>
      rw [Answer.errorCode?, none] at coded
      cases coded
  | health _ same =>
      rw [same] at coded
      cases coded
  | trip _ _ ran => exact ran

/-- A valid request is refused for its figures alone, and before anything is done for it. -/
theorem spares_of_answerRequest
    (ran : (Server.answerRequest request).run server = (.ok given, after))
    (refusal : code ∈ refusalCodes) (coded : given.errorCode? = some code) :
    checkFigures request ≠ .ok () ∧ after.desk = server.desk := by
  rw [Server.run_answerRequest] at ran
  cases inForce : server.plannerInForce with
  | error fault =>
      rw [inForce] at ran
      cases (Prod.mk.inj ran).1
  | ok planner =>
      rw [inForce] at ran
      obtain ⟨answered, rfl⟩ := Prod.mk.inj ran
      obtain rfl := Except.ok.inj answered
      rw [Server.desk_afterEstimate]
      rcases estimated : (planner.estimate server.sources request).run server.desk with
        ⟨fault | estimate, desk⟩
      · rw [estimated] at coded
        exact run_estimate_of_isInvalidInput planner server.sources estimated
          (isInvalidInput_of_errorCode? refusal coded)
      · rw [estimated, Server.estimateAnswer, errorCode?_report] at coded
        cases coded

theorem spares_of_answerFields
    (ran : (Server.answerFields fields).run server = (.ok given, after))
    (refusal : code ∈ refusalCodes) (coded : given.errorCode? = some code) :
    after.desk = server.desk := by
  rw [Server.run_answerFields] at ran
  split at ran
  · cases (Prod.mk.inj ran).1
  · rw [(Prod.mk.inj ran).2]
  · exact (spares_of_answerRequest ran refusal coded).2

/-- A request that is refused leaves the wire to the map service and all that was read from data
sets as they were.  A valid request with a mileage and a daily distance above zero is not refused:
where litres and days are counted from figures that were accepted, the checks find nothing. -/
theorem refusal_precedes_calls
    (ran : (Server.answer message).run server = (.ok given, after)) :
    (∀ code ∈ refusalCodes, given.errorCode? = some code → after.desk = server.desk) ∧
    (∀ fields request, message.payload = .ok (.object fields) →
      Request.read (.object fields) = .ok (.fine request) →
      0 < request.mileage → 0 < request.kmPerDay →
      given.errorCode? ≠ some "invalid_input") ∧
    (∀ request distanceKm, checkFigures request = .ok () →
      (∃ litres, Fuel.litresFor distanceKm (some request.mileage) = .ok litres) ∧
      Expenses.journeyDays distanceKm (some request.kmPerDay) ≠
        .error Expenses.dailyDistanceFault) := by
  refine ⟨fun code refusal coded => ?_,
    fun fields request payload read mileage kmPerDay coded => ?_,
    fun request distanceKm accepted => ⟨⟨_, litresFor_of_accepted accepted distanceKm⟩, ?_⟩⟩
  · replace ran := run_answerTrip_of_errorCode? ran coded
    rw [Server.run_answerTrip] at ran
    split at ran
    · cases (Prod.mk.inj ran).1
    · exact spares_of_answerFields ran refusal coded
    all_goals rw [(Prod.mk.inj ran).2]
  · replace ran := run_answerTrip_of_errorCode? ran coded
    rw [Server.run_answerTrip, payload] at ran
    simp only [Server.run_answerFields, read] at ran
    refine (spares_of_answerRequest ran ?_ coded).1 (checkFigures_of_pos mileage kmPerDay)
    simp [refusalCodes]
  · intro refused
    cases isInvalidInput_of_journeyDays accepted refused

theorem exists_given (trip : IsTripPost message) (payload : message.payload = .ok (.object fields))
    (gives : ((Server.answerFields fields).run server).1.toOption.bind Answer.errorCode? =
      some code) :
    ∃ given after, (Server.answer message).run server = (.ok given, after) ∧
      given.errorCode? = some code := by
  obtain ⟨given, answered, coded⟩ := Option.bind_eq_some_iff.mp gives
  have outcome := toOption_eq_some_iff.mp answered
  exact ⟨given, _, (run_answer_of_object trip payload server).trans (Prod.ext outcome rfl), coded⟩

/-- A journey with a mileage of zero is refused; the same journey with a mileage of fifteen is
not. -/
theorem refusal_precedes_calls_mileage :
    (∃ given after, (Server.answer (journeyPost "0")).run journeyServer = (.ok given, after) ∧
      given.errorCode? = some "invalid_input" ∧ after.desk = journeyServer.desk) ∧
    ∃ report after request, (Server.answer (journeyPost "15")).run journeyServer =
        (.ok (.json 200 report), after) ∧
      Request.read (.object (journeyFields "15")) = .ok (.fine request) ∧
      0 < request.mileage ∧ 0 < request.kmPerDay ∧
      (Answer.json 200 report).errorCode? ≠ some "invalid_input" := by
  constructor
  · have carried := payload_journeyPost "0" (by decide +kernel) (by decide +kernel)
    have gives : ((Server.answerFields (journeyFields "0")).run journeyServer).1.toOption.bind
        Answer.errorCode? = some "invalid_input" := by decide +kernel
    obtain ⟨given, after, ran, coded⟩ := exists_given (isTripPost_journeyPost "0") carried gives
    obtain ⟨spared, -, -⟩ := refusal_precedes_calls ran
    exact ⟨given, after, ran, coded, spared _ (by simp [refusalCodes]) coded⟩
  · obtain ⟨report, after, estimated⟩ := exists_estimated_journey
    obtain ⟨request, planner, estimate, read, -⟩ := estimated.exists_estimate
    have figures : ((Request.read (.object (journeyFields "15"))).toOption.bind Checked.value?).any
        (fun request => 0 < request.mileage ∧ 0 < request.kmPerDay) = true := by decide +kernel
    rw [read] at figures
    obtain ⟨mileage, kmPerDay⟩ := of_decide_eq_true figures
    obtain ⟨-, fair, -⟩ := refusal_precedes_calls estimated.answered
    exact ⟨report, after, request, estimated.answered, read, mileage, kmPerDay,
      fair _ request estimated.carried read mileage kmPerDay⟩

end JourneyCost.Service
