import JourneyCost.Proofs.Service.Answers
import JourneyCost.Proofs.Trip.Echo
import JourneyCost.Proofs.Trip.Figures

/-!
# Answers that are standard documents

The numbers in answers are finite, with two exceptions.  A flaw repeats what the caller sent, even
where it was refused for not being finite, and a report gives figures that were read from replies
and data sets or worked out from them.
-/

namespace JourneyCost.Service

open Net Trip

variable {server after : Server} {message : Message} {given : Answer} {document : Json}
  {fields : Fields} {fault : Fault} {flaws : List Flaw}

/-- A message asks for an estimate with a payload. -/
structure Asks (message : Message) (payload : Fields) : Prop where
  /-- It is posted. -/
  posted : message.method = "POST"
  /-- It goes to the path of estimates. -/
  aimed : percentDecode message.path.toList = Server.tripPath
  /-- It has the payload. -/
  carried : message.payload = .ok (.object payload)

/-- What brings a number that is not finite into an answer. -/
inductive Strays (server : Server) (message : Message) : Prop
  /-- A flaw repeats it. -/
  | echo {fields : Fields} {flaws : List Flaw} {flaw : Flaw} :
      Asks message fields → Request.read (.object fields) = .ok (.flawed flaws) →
      flaw ∈ flaws → ¬ flaw.input.IsStandard → Strays server message
  /-- It is an open figure of the estimate. -/
  | figure {fields : Fields} {request : Request} {planner : Planner} {estimate : Estimate}
      {desk : Desk} {figure : Float} :
      Asks message fields → Request.read (.object fields) = .ok (.fine request) →
      server.plannerInForce = .ok planner →
      (planner.estimate server.sources request).run server.desk = (.ok estimate, desk) →
      figure ∈ estimate.openFigures → figure.isFinite = false → Strays server message

theorem Asks.unique {p q : Fields} (first : Asks message p) (second : Asks message q) : p = q := by
  have same := first.carried.symm.trans second.carried
  exact Payload.object.inj (Except.ok.inj same)

theorem Strays.exists_asks (strays : Strays server message) : ∃ payload, Asks message payload := by
  cases strays with
  | echo asks | figure asks => exact ⟨_, asks⟩

theorem not_strays_of_payload {payload : Payload} (carried : message.payload = .ok payload)
    (noObject : ∀ fields, payload ≠ .object fields) : ¬ Strays server message := by
  intro strays
  obtain ⟨fields, asks⟩ := strays.exists_asks
  exact noObject fields (Except.ok.inj (carried.symm.trans asks.carried))

theorem not_strays_of_health (aimed : percentDecode message.path.toList = Server.healthPath) :
    ¬ Strays server message := by
  intro strays
  obtain ⟨fields, asks⟩ := strays.exists_asks
  exact absurd (aimed.symm.trans asks.aimed) (by decide)

/-- From a request with flaws only what they repeat can stray. -/
theorem strays_iff_of_flawed (asks : Asks message fields)
    (read : Request.read (.object fields) = .ok (.flawed flaws)) :
    Strays server message ↔ ∃ flaw ∈ flaws, ¬ flaw.input.IsStandard := by
  constructor
  · rintro (⟨again, readAgain, member, stray⟩ | ⟨again, fine, -⟩)
    · obtain rfl := asks.unique again
      obtain rfl := Checked.flawed.inj (Except.ok.inj (read.symm.trans readAgain))
      exact ⟨_, member, stray⟩
    · obtain rfl := asks.unique again
      cases read.symm.trans fine
  · rintro ⟨flaw, member, stray⟩
    exact .echo asks read member stray

/-- From a valid request only open figures of its estimate can stray. -/
theorem strays_iff_of_fine {request : Request} {planner : Planner} (asks : Asks message fields)
    (fine : Request.read (.object fields) = .ok (.fine request))
    (inForce : server.plannerInForce = .ok planner) :
    Strays server message ↔ ∃ estimate desk,
      (planner.estimate server.sources request).run server.desk = (.ok estimate, desk) ∧
        ∃ figure ∈ estimate.openFigures, figure.isFinite = false := by
  constructor
  · rintro (⟨again, read, -⟩ | ⟨again, fineAgain, inForceAgain, ran, member, stray⟩)
    · obtain rfl := asks.unique again
      cases fine.symm.trans read
    · obtain rfl := asks.unique again
      obtain rfl := Checked.fine.inj (Except.ok.inj (fine.symm.trans fineAgain))
      obtain rfl := Except.ok.inj (inForce.symm.trans inForceAgain)
      exact ⟨_, _, ran, _, member, stray⟩
  · rintro ⟨estimate, desk, ran, figure, member, stray⟩
    exact .figure asks fine inForce ran member stray

theorem isStandard_flawedAnswer_iff (holds : (flawedAnswer flaws).document = some document) :
    document.IsStandard ↔ ∀ flaw ∈ flaws, flaw.input.IsStandard := by
  obtain rfl := Option.some.inj holds
  simp [errorFields, flawDetail]

theorem isStandard_of_faultAnswer (holds : (faultAnswer fault).document = some document) :
    document.IsStandard := by
  unfold faultAnswer at holds
  split at holds <;> obtain rfl := Option.some.inj holds <;> simp [errorFields]

theorem isStandard_iff_of_flawed (asks : Asks message fields)
    (read : Request.read (.object fields) = .ok (.flawed flaws))
    (holds : (flawedAnswer flaws).document = some document) :
    document.IsStandard ↔ ¬ Strays server message := by
  rw [isStandard_flawedAnswer_iff holds, strays_iff_of_flawed asks read]
  simp

theorem isStandard_iff_of_fine {request : Request} {planner : Planner}
    (asks : Asks message fields) (fine : Request.read (.object fields) = .ok (.fine request))
    (inForce : server.plannerInForce = .ok planner)
    (holds : (Server.estimateAnswer
      ((planner.estimate server.sources request).run server.desk).1).document = some document) :
    document.IsStandard ↔ ¬ Strays server message := by
  rw [strays_iff_of_fine asks fine inForce]
  rcases ran : (planner.estimate server.sources request).run server.desk with
    ⟨fault | estimate, desk⟩
  · rw [ran] at holds
    exact iff_of_true (isStandard_of_faultAnswer holds) (by simp)
  · rw [ran] at holds
    obtain rfl := Option.some.inj holds
    have computedRun := run_estimate_eq_ok ran
    obtain ⟨origin, start, destination, stop, given⟩ := ends_of_run computedRun
    obtain ⟨wire, library, computed⟩ := computed_of_run given computedRun
    rw [computed.isStandard_report_iff (Request.isReadFrom_of_read fine)]
    simp

theorem isStandard_iff_of_answerTrip (posted : message.method = "POST")
    (aimed : percentDecode message.path.toList = Server.tripPath)
    (ran : (Server.answerTrip message).run server = (.ok given, after))
    (holds : given.document = some document) :
    document.IsStandard ↔ ¬ Strays server message := by
  rw [Server.run_answerTrip] at ran
  cases carried : message.payload with
  | error fault =>
      rw [carried] at ran
      cases (Prod.mk.inj ran).1
  | ok payload =>
      rw [carried] at ran
      cases payload with
      | object fields =>
          have asks : Asks message fields := ⟨posted, aimed, carried⟩
          simp only [Server.run_answerFields] at ran
          split at ran
          · cases (Prod.mk.inj ran).1
          · rename_i flaws read
            obtain rfl := Except.ok.inj (Prod.mk.inj ran).1
            exact isStandard_iff_of_flawed asks read holds
          · rename_i request fine
            rw [Server.run_answerRequest] at ran
            split at ran
            · cases (Prod.mk.inj ran).1
            · rename_i planner inForce
              obtain rfl := Except.ok.inj (Prod.mk.inj ran).1
              exact isStandard_iff_of_fine asks fine inForce holds
      | noDocument | noObject =>
          obtain rfl := Except.ok.inj (Prod.mk.inj ran).1
          obtain rfl := Option.some.inj holds
          exact iff_of_true (by simp [errorFields]) (not_strays_of_payload carried (by simp))
      | refused =>
          obtain rfl := Except.ok.inj (Prod.mk.inj ran).1
          cases holds

/-- The document in an answer is standard unless a flaw of the request repeats a number that is not
finite, or an estimate has an open figure that is not.  Flaws repeat no such number if the payload
has none and no position in it is read as one. -/
theorem answer_isStandard_iff (ran : (Server.answer message).run server = (.ok given, after))
    (holds : given.document = some document) :
    (document.IsStandard ↔ ¬ Strays server message) ∧
      ∀ fields flaws, Asks message fields →
        Request.read (.object fields) = .ok (.flawed flaws) → (Json.object fields).IsStandard →
        (∀ key ∈ coordinateKeys, ReadsStandard (fields.get key)) → document.IsStandard := by
  have characterized : document.IsStandard ↔ ¬ Strays server message := by
    cases Server.answeredAs_of_run ran with
    | page none => cases none.symm.trans holds
    | health aimed same =>
        rw [same] at holds
        obtain rfl := Option.some.inj holds
        exact iff_of_true (by simp [Server.healthDocument]) (not_strays_of_health aimed)
    | trip posted aimed ran => exact isStandard_iff_of_answerTrip posted aimed ran holds
  refine ⟨characterized, fun fields flaws asks read standard positions => ?_⟩
  rw [characterized, strays_iff_of_flawed asks read]
  rintro ⟨flaw, member, stray⟩
  exact stray (echoes_read standard positions read flaw member)

/-- A post of an object with a mileage and nothing else. -/
def mileagePost (mileage : Json) : Message :=
  posted (Text.toBytes (Json.object [("mileage", mileage)]).compact)

section

variable {mileage : Json} {flaw : Flaw}

theorem asks_mileagePost (readable : mileage.Readable) (inOrder : mileage.sorted = mileage)
    (short : (mileagePost mileage).body.length ≤ bodyLimit) :
    Asks (mileagePost mileage) [("mileage", mileage)] := by
  have whole : (Json.object [("mileage", mileage)]).Readable :=
    .object (List.nodup_singleton _) (List.forall_mem_singleton.mpr readable)
  have alone : Json.orderedFields [("mileage", mileage)] = [("mileage", mileage)] := by
    rw [Json.orderedFields, Json.sortedFields, inOrder]
    exact List.mergeSort_singleton _
  exact ⟨rfl, (isTripPost_posted _).aimed, alone ▸ payload_posted whole short⟩

/-- The answer lists what is wrong with the mileage. -/
theorem exists_run_mileagePost (asks : Asks (mileagePost mileage) [("mileage", mileage)])
    (wrong : flaw ∈ (checkFinite ["mileage"] mileage).flaws) (server : Server) :
    ∃ flaws, Request.read (.object [("mileage", mileage)]) = .ok (.flawed flaws) ∧ flaw ∈ flaws ∧
      (Server.answer (mileagePost mileage)).run server = (.ok (flawedAnswer flaws), server) := by
  obtain ⟨checked, read⟩ : ∃ checked, Request.read (.object [("mileage", mileage)]) = .ok checked :=
    ⟨_, rfl⟩
  obtain ⟨flaws, rfl, member⟩ := exists_flawed_of_mileage rfl wrong read
  refine ⟨flaws, read, member, ?_⟩
  refine (run_answer_of_object (isTripPost_posted _) asks.carried server).trans ?_
  rw [Server.run_answerFields, read]

end

theorem asks_undefined : Asks (mileagePost (.float Float.nan)) [("mileage", .float Float.nan)] :=
  asks_mileagePost (.float _) rfl (by decide +kernel)

theorem asks_far : Asks (mileagePost (.text "far")) [("mileage", .text "far")] :=
  asks_mileagePost (.text _) rfl (by decide +kernel)

/-- A mileage that is undefined is repeated; a text in its place is repeated as well, but it is
standard. -/
theorem answer_isStandard_iff_mileage : let server := Server.start {} .empty []
    (∃ given after document,
      (Server.answer (mileagePost (.float Float.nan))).run server = (.ok given, after) ∧
        given.document = some document ∧ ¬ document.IsStandard) ∧
    ∃ given after document,
      (Server.answer (mileagePost (.text "far"))).run server = (.ok given, after) ∧
        given.document = some document ∧ document.IsStandard := by
  intro server
  constructor
  · have broken : Float.nan.isFinite = false := by decide +kernel
    obtain ⟨flaws, read, member, ran⟩ :=
      exists_run_mileagePost asks_undefined (mem_flaws_checkFinite broken _) server
    obtain ⟨characterized, -⟩ := answer_isStandard_iff ran rfl
    refine ⟨_, _, _, ran, rfl, fun standard => ?_⟩
    exact characterized.mp standard (.echo asks_undefined read member (by simp [broken]))
  · have unread : checkFinite ["mileage"] (.text "far") =
        reject .unreadableNumber ["mileage"] (.text "far") := by
      have unspelled : Decimal.readField? "far" = none := by decide +kernel
      rw [checkFinite, checkNumber, unspelled]
      rfl
    have wrong : ⟨.unreadableNumber, ["mileage"], .text "far"⟩ ∈
        (checkFinite ["mileage"] (.text "far")).flaws := by
      rw [unread]
      exact List.mem_singleton_self _
    obtain ⟨flaws, read, -, ran⟩ := exists_run_mileagePost asks_far wrong server
    obtain ⟨-, repeats⟩ := answer_isStandard_iff ran rfl
    refine ⟨_, _, _, ran, rfl, repeats _ _ asks_far read (by simp) ?_⟩
    intro key isKey raw coordinates
    have missing : Fields.get [("mileage", .text "far")] key = .null := by
      rcases List.mem_cons.mp isKey with rfl | later
      · rfl
      · obtain rfl := List.mem_singleton.mp later
        rfl
    rw [missing] at coordinates
    cases coordinates

/-- A mileage that is undefined stands in the answer that refuses it. -/
theorem not_answer_isStandard :
    ¬ ∀ (server after : Server) (message : Message) (given : Answer) (document : Json),
      (Server.answer message).run server = (.ok given, after) →
      given.document = some document → document.IsStandard := by
  intro all
  have broken : Float.nan.isFinite = false := by decide +kernel
  obtain ⟨flaws, -, member, ran⟩ := exists_run_mileagePost asks_undefined
    (mem_flaws_checkFinite broken _) (Server.start {} .empty [])
  have standard := isStandard_flawedAnswer_iff rfl |>.mp (all _ _ _ _ _ ran rfl) _ member
  simp [broken] at standard

end JourneyCost.Service
