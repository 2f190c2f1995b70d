import JourneyCost.Proofs.Json.Nesting
import JourneyCost.Proofs.Json.RoundTrip
import JourneyCost.Proofs.Json.Refusal
import JourneyCost.Proofs.Service.Querying
import JourneyCost.Proofs.Service.Running
import JourneyCost.Proofs.Trip.Reading

/-!
# Answers to requests for estimates

A request for an estimate is answered with a document, unless its payload cannot be taken: a form
with too many fields or none that its set can read, a body that is too long or is no text, or a
position that no float can hold.
-/

namespace JourneyCost.Service

open Trip

/-- A request for an estimate that says that it carries a document. -/
structure IsTripPost (message : Message) : Prop where
  /-- It is posted. -/
  posted : message.method = "POST"
  /-- It goes to the path of estimates. -/
  aimed : percentDecode message.path.toList = Server.tripPath
  /-- It is declared as a document. -/
  declared : ∃ contentType, ContentType.ofText message.contentType = .ok contentType ∧
    contentType.header.main = "application/json"

/-- What leaves a request for an estimate without a document for an answer. -/
inductive Unanswered (message : Message) : Prop
  /-- A known set is declared, and the form in the address cannot be read in it. -/
  | foreign {contentType : ContentType} {set : Charset} {fault : Fault} :
      ContentType.ofText message.contentType = .ok contentType →
      contentType.charset = some set → queryFields set message.query = .error fault →
      Unanswered message
  /-- No known set is declared, there is no body, and the form in the address has too many
  fields. -/
  | crowded {contentType : ContentType} :
      ContentType.ofText message.contentType = .ok contentType → contentType.charset = none →
      message.body = [] → hasTooManyFields message.query = true → Unanswered message
  /-- The body is too long. -/
  | long : bodyLimit < message.body.length → Unanswered message
  /-- The body is no text, or an integer in it has too many digits. -/
  | unreadable {fault : Fault} :
      message.body ≠ [] → message.body.length ≤ bodyLimit →
      Json.readBytes message.body = .error fault → fault ≠ .malformedDocument →
      Unanswered message
  /-- A position is too large. -/
  | huge {fields : Fields} {key : String} :
      message.payload = .ok (.object fields) → key ∈ coordinateKeys →
      HugeCoordinate (fields.get key) → Unanswered message

/-- An answer that is a document with one of the four statuses of the service. -/
def IsDocument (answer : Answer) : Prop :=
  ∃ status document, answer = .json status document ∧ status ∈ [200, 400, 500, 502]

variable {message : Message} {contentType : ContentType} {fault : Fault}

theorem isDocument_error {status : Nat} (usual : status ∈ [200, 400, 500, 502])
    (fields : Fields) : IsDocument (.error status fields) :=
  ⟨status, _, rfl, usual⟩

theorem isDocument_faultAnswer (fault : Fault) : IsDocument (faultAnswer fault) := by
  unfold faultAnswer
  split <;> exact isDocument_error (by simp) _

theorem isDocument_estimateAnswer (outcome : Except Fault Estimate) :
    IsDocument (Server.estimateAnswer outcome) := by
  cases outcome with
  | ok estimate => exact ⟨200, _, rfl, by simp⟩
  | error fault => exact isDocument_faultAnswer fault

theorem not_isDocument_page (status : Nat) : ¬ IsDocument (.page status) := by
  rintro ⟨status, document, same, -⟩
  cases same

theorem payload_of_isTripPost (trip : IsTripPost message)
    (content : message.content = .ok contentType) :
    message.payload =
      if message.body = [] then queryPayload contentType.set message.query
      else documentPayload message.body := by
  obtain ⟨declared, read, isDocument⟩ := trip.declared
  obtain rfl : declared = contentType := Except.ok.inj (read.symm.trans (ofText_of_content content))
  have noForm : (declared.header.main == "application/x-www-form-urlencoded") = false ∧
      (declared.header.main == "multipart/form-data") = false := by
    rw [isDocument]
    decide
  rw [Message.payload, content, ok_bind, noForm.1, noForm.2]
  simp only [Bool.false_eq_true, if_false, List.isEmpty_iff]

theorem payload_of_content_eq_error (failed : message.content = .error fault) :
    message.payload = .error fault := by
  rw [Message.payload, failed]
  rfl

theorem documentPayload_of_long {body : Bytes} (long : bodyLimit < body.length) :
    documentPayload body = .ok .refused := if_pos long

theorem documentPayload_of_fault {body : Bytes} (short : body.length ≤ bodyLimit)
    (unread : Json.readBytes body = .error fault) (other : fault ≠ .malformedDocument) :
    documentPayload body = .error fault := by
  rw [documentPayload, if_neg (Nat.not_lt.mpr short), unread]
  rcases Json.readBytes_eq_error unread with (rfl | rfl) | rfl
  · exact absurd rfl other
  · rfl
  · rfl

theorem documentPayload_of_noDocument {body : Bytes} (short : body.length ≤ bodyLimit)
    (unread : Json.readBytes body = .error .malformedDocument) :
    documentPayload body = .ok .noDocument := by
  rw [documentPayload, if_neg (Nat.not_lt.mpr short), unread]

theorem documentPayload_of_noObject {body : Bytes} {value : Json}
    (short : body.length ≤ bodyLimit) (read : Json.readBytes body = .ok value)
    (noObject : ∀ fields, value ≠ .object fields) : documentPayload body = .ok .noObject := by
  rw [documentPayload, if_neg (Nat.not_lt.mpr short), read]
  cases value with
  | object fields => exact absurd rfl (noObject fields)
  | null | bool | int | float | text | list => rfl

theorem documentPayload_of_object {body : Bytes} {fields : Fields}
    (short : body.length ≤ bodyLimit) (read : Json.readBytes body = .ok (.object fields)) :
    documentPayload body = .ok (.object fields) := by
  rw [documentPayload, if_neg (Nat.not_lt.mpr short), read]

theorem payload_of_unanswered (trip : IsTripPost message) (unanswered : Unanswered message) :
    (∃ fault, message.payload = .error fault) ∨ message.payload = .ok .refused ∨
      ∃ fields, message.payload = .ok (.object fields) ∧
        ∃ key ∈ coordinateKeys, HugeCoordinate (fields.get key) := by
  cases content : message.content with
  | error fault => exact .inl ⟨fault, payload_of_content_eq_error content⟩
  | ok contentType =>
      have payload := payload_of_isTripPost trip content
      cases unanswered with
      | foreign read declared failed =>
          rw [content_of_declared read declared, failed] at content
          cases content
      | crowded read usual noBody many =>
          obtain rfl := Except.ok.inj (read.symm.trans (ofText_of_content content))
          rw [if_pos noBody, set_of_usual usual, queryPayload_of_crowded many] at payload
          exact .inl ⟨_, payload⟩
      | long tooLong =>
          have hasBody : message.body ≠ [] := by
            intro noBody
            rw [noBody] at tooLong
            exact Nat.not_lt_zero _ tooLong
          rw [if_neg hasBody, documentPayload_of_long tooLong] at payload
          exact .inr (.inl payload)
      | unreadable hasBody short unread other =>
          rw [if_neg hasBody, documentPayload_of_fault short unread other] at payload
          exact .inl ⟨_, payload⟩
      | huge isObject isKey tooLarge => exact .inr (.inr ⟨_, isObject, _, isKey, tooLarge⟩)

/-- The form in the address of an answered request can be read, if it has to be. -/
theorem queryPayload_of_answered (trip : IsTripPost message) (answered : ¬ Unanswered message) :
    ∃ contentType, message.content = .ok contentType ∧
      (message.body = [] →
        ∃ fields, queryPayload contentType.set message.query = .ok (.object fields)) := by
  obtain ⟨contentType, read, -⟩ := trip.declared
  refine ⟨contentType, ?_⟩
  cases charset : contentType.charset with
  | none =>
      refine ⟨content_of_usual read charset, fun noBody => ?_⟩
      have few : hasTooManyFields message.query = false :=
        Bool.eq_false_iff.mpr fun many => answered (.crowded read charset noBody many)
      rw [set_of_usual charset]
      exact ⟨_, queryPayload_of_not_crowded few⟩
  | some set =>
      cases fields : queryFields set message.query with
      | error fault => exact absurd (.foreign read charset fields) answered
      | ok params =>
          rw [content_of_declared read charset, set_of_declared charset, queryPayload, fields]
          exact ⟨rfl, fun _ => ⟨_, rfl⟩⟩

theorem payload_of_answered (trip : IsTripPost message) (answered : ¬ Unanswered message) :
    message.payload = .ok .noDocument ∨ message.payload = .ok .noObject ∨
      ∃ fields, message.payload = .ok (.object fields) ∧
        ∀ key ∈ coordinateKeys, ¬ HugeCoordinate (fields.get key) := by
  obtain ⟨contentType, content, queried⟩ := queryPayload_of_answered trip answered
  have payload := payload_of_isTripPost trip content
  have small : ∀ fields, message.payload = .ok (.object fields) →
      ∀ key ∈ coordinateKeys, ¬ HugeCoordinate (fields.get key) :=
    fun fields isObject key isKey tooLarge => answered (.huge isObject isKey tooLarge)
  by_cases noBody : message.body = []
  · obtain ⟨fields, query⟩ := queried noBody
    rw [if_pos noBody, query] at payload
    exact .inr (.inr ⟨_, payload, small _ payload⟩)
  · have short : message.body.length ≤ bodyLimit := Nat.not_lt.mp fun long => answered (.long long)
    rw [if_neg noBody] at payload
    cases read : Json.readBytes message.body with
    | error cause =>
        by_cases noDocument : cause = .malformedDocument
        · rw [noDocument] at read
          exact .inl (payload.trans (documentPayload_of_noDocument short read))
        · exact absurd (.unreadable noBody short read noDocument) answered
    | ok value =>
        by_cases isObject : ∃ fields, value = .object fields
        · obtain ⟨fields, rfl⟩ := isObject
          rw [documentPayload_of_object short read] at payload
          exact .inr (.inr ⟨fields, payload, small fields payload⟩)
        · have noObject := documentPayload_of_noObject short read (not_exists.mp isObject)
          exact .inr (.inl (payload.trans noObject))

/-! ## Outcomes -/

/-- A post to the path of estimates is answered from its payload. -/
theorem run_answer_of_post (posted : message.method = "POST")
    (aimed : percentDecode message.path.toList = Server.tripPath) (server : Server) :
    (Server.answer message).run server = (Server.answerTrip message).run server := by
  have elsewhere : (Server.tripPath == Server.healthPath) = false := by decide
  rw [Server.answer, Work.run_bind, Work.run_ofExcept]
  cases content : message.content with
  | error fault => rw [Server.run_answerTrip, payload_of_content_eq_error content]
  | ok contentType =>
      simp only [Server.answerPath, aimed, elsewhere, posted, beq_self_eq_true, if_true,
        Bool.false_eq_true, if_false]

theorem run_answer_of_isTripPost (trip : IsTripPost message) (server : Server) :
    (Server.answer message).run server = (Server.answerTrip message).run server :=
  run_answer_of_post trip.posted trip.aimed server

theorem plannerInForce_of_known {server : Server} {provider : Map.Provider}
    (known : Map.Provider.ofName server.settings.provider = .ok provider) :
    ∃ planner, server.plannerInForce = .ok planner := by
  unfold Server.plannerInForce
  split
  · exact ⟨_, rfl⟩
  · unfold Planner.create Map.Client.create
    simp only [Option.filter_none, Option.getD_none, known]
    cases provider with
    | ola => exact ⟨_, rfl⟩
    | ors => exact ⟨_, rfl⟩

theorem run_answer_of_object (trip : IsTripPost message) {fields : Fields}
    (isObject : message.payload = .ok (.object fields)) (server : Server) :
    (Server.answer message).run server = (Server.answerFields fields).run server := by
  rw [run_answer_of_isTripPost trip, Server.run_answerTrip, isObject]

/-- An object whose positions are small enough is answered, whatever is wrong with it. -/
theorem isDocument_of_small {server : Server} {provider : Map.Provider}
    (known : Map.Provider.ofName server.settings.provider = .ok provider) {fields : Fields}
    (small : ∀ key ∈ coordinateKeys, ¬ HugeCoordinate (fields.get key)) :
    ∃ answer, ((Server.answerFields fields).run server).1 = .ok answer ∧ IsDocument answer := by
  obtain ⟨planner, inForce⟩ := plannerInForce_of_known known
  rw [Server.run_answerFields]
  cases read : Request.read (.object fields) with
  | error cause =>
      obtain ⟨-, key, isKey, tooLarge⟩ := Request.read_eq_error_iff.mp read
      exact absurd tooLarge (small key isKey)
  | ok checked =>
      cases checked with
      | flawed flaws => exact ⟨_, rfl, isDocument_error (by simp) _⟩
      | fine request =>
          simp only [Server.run_answerRequest, inForce]
          exact ⟨_, rfl, isDocument_estimateAnswer _⟩

theorem isDocument_of_answered {server : Server} {provider : Map.Provider}
    (known : Map.Provider.ofName server.settings.provider = .ok provider)
    (trip : IsTripPost message) (answered : ¬ Unanswered message) :
    ∃ answer, ((Server.answer message).run server).1 = .ok answer ∧ IsDocument answer := by
  rcases payload_of_answered trip answered with payload | payload | ⟨fields, payload, small⟩
  · rw [run_answer_of_isTripPost trip, Server.run_answerTrip, payload]
    exact ⟨_, rfl, isDocument_error (by simp) _⟩
  · rw [run_answer_of_isTripPost trip, Server.run_answerTrip, payload]
    exact ⟨_, rfl, isDocument_error (by simp) _⟩
  · rw [run_answer_of_object trip payload]
    exact isDocument_of_small known small

theorem not_isDocument_of_unanswered (server : Server) (trip : IsTripPost message)
    (unanswered : Unanswered message) :
    ¬ ∃ answer, ((Server.answer message).run server).1 = .ok answer ∧ IsDocument answer := by
  rintro ⟨answer, given, document⟩
  rcases payload_of_unanswered trip unanswered with
    ⟨fault, payload⟩ | payload | ⟨fields, payload, key, isKey, tooLarge⟩
  · rw [run_answer_of_isTripPost trip, Server.run_answerTrip, payload] at given
    cases given
  · rw [run_answer_of_isTripPost trip, Server.run_answerTrip, payload] at given
    obtain rfl := Except.ok.inj given
    exact not_isDocument_page 400 document
  · have unread := Request.read_eq_error_iff.mpr ⟨rfl, key, isKey, tooLarge⟩
    rw [run_answer_of_object trip payload, Server.run_answerFields, unread] at given
    cases given

theorem estimate_of_unforeseen {planner : Planner} {sources : Sources} {request : Request}
    {desk : Desk} (failed : ((compute planner sources request).run desk).1 = .error fault)
    (unforeseen : fault.isTripFault = false) :
    ((planner.estimate sources request).run desk).1 = .error .estimateFailed := by
  rw [Planner.estimate, Work.run_tryCatch]
  rcases ran : (compute planner sources request).run desk with ⟨cause | estimate, after⟩
  · obtain rfl : cause = fault := by simpa [ran] using failed
    simp [asTripFault, unforeseen]
  · simp [ran] at failed

/-- A request for an estimate with a shallow body, while the map service is known, is answered with
a document, unless its payload cannot be taken.  What is no document and what is no object is
refused as such, flaws are listed, and a fault that nobody foresaw is reported as one. -/
theorem answer_isDocument_iff (server : Server) (message : Message) {provider : Map.Provider}
    (known : Map.Provider.ofName server.settings.provider = .ok provider)
    (trip : IsTripPost message) (shallow : Json.IsShallow (Json.tokensOfBytes message.body)) :
    let outcome := ((Server.answer message).run server).1
    Json.FitsIn Json.nestingLimit (Json.tokensOfBytes message.body) ∧
    ((∃ answer, outcome = .ok answer ∧ IsDocument answer) ↔ ¬ Unanswered message) ∧
    (∀ contentType, message.content = .ok contentType → message.body ≠ [] →
      message.body.length ≤ bodyLimit →
      Json.readBytes message.body = .error .malformedDocument ∨
        (∃ value, Json.readBytes message.body = .ok value ∧ ∀ fields, value ≠ .object fields) →
      ∃ text, outcome = .ok (.error 400 (errorFields "invalid_json" text))) ∧
    (∀ fields flaws, message.payload = .ok (.object fields) →
      Request.read (.object fields) = .ok (.flawed flaws) →
      outcome = .ok (flawedAnswer flaws)) ∧
    (∀ fields request planner fault, message.payload = .ok (.object fields) →
      Request.read (.object fields) = .ok (.fine request) →
      server.plannerInForce = .ok planner →
      ((compute planner server.sources request).run server.desk).1 = .error fault →
      fault.isTripFault = false →
      outcome = .ok (.error 500 (errorFields "internal_error" Fault.estimateFailed.message))) := by
  intro outcome
  refine ⟨Json.fitsIn_of_isShallow shallow, ⟨?_, isDocument_of_answered known trip⟩, ?_, ?_, ?_⟩
  · exact fun answered unanswered => not_isDocument_of_unanswered server trip unanswered answered
  · intro contentType content hasBody short refused
    have payload := payload_of_isTripPost trip content
    rw [if_neg hasBody] at payload
    simp only [outcome, run_answer_of_isTripPost trip, Server.run_answerTrip, payload]
    rcases refused with noDocument | ⟨value, read, noObject⟩
    · rw [documentPayload_of_noDocument short noDocument]
      exact ⟨_, rfl⟩
    · rw [documentPayload_of_noObject short read noObject]
      exact ⟨_, rfl⟩
  · intro fields flaws payload flawed
    simp only [outcome, run_answer_of_object trip payload, Server.run_answerFields, flawed]
  · intro fields request planner fault payload fine inForce failed unforeseen
    have estimate := estimate_of_unforeseen failed unforeseen
    simp only [outcome, run_answer_of_object trip payload, Server.run_answerFields, fine,
      Server.run_answerRequest, inForce, estimate]
    rfl

/-- A post of a document. -/
def posted (body : Bytes) : Message :=
  ⟨"POST", Server.tripPath, "", "application/json", body⟩

theorem exists_ofText_document : ∃ contentType,
    ContentType.ofText "application/json" = .ok contentType ∧
      contentType.header.main = "application/json" ∧ contentType.charset = none :=
  exists_ofText (by decide +kernel)

theorem isTripPost_of_declared (posted : message.method = "POST")
    (aimed : percentDecode message.path.toList = Server.tripPath)
    (declared : message.contentType = "application/json") : IsTripPost message := by
  obtain ⟨contentType, read, main, -⟩ := exists_ofText_document
  exact ⟨posted, aimed, contentType, declared ▸ read, main⟩

/-- What is declared as a document in no known set is read whatever is in the address. -/
theorem exists_content_of_declared (declared : message.contentType = "application/json") :
    ∃ contentType, message.content = .ok contentType ∧ contentType.set = usualCharset ∧
      contentType.header.main = "application/json" := by
  obtain ⟨contentType, read, main, usual⟩ := exists_ofText_document
  exact ⟨contentType, content_of_usual (declared ▸ read) usual, set_of_usual usual, main⟩

theorem payload_of_declared (trip : IsTripPost message)
    (declared : message.contentType = "application/json") :
    message.payload =
      if message.body = [] then queryPayload usualCharset message.query
      else documentPayload message.body := by
  obtain ⟨contentType, content, usual, -⟩ := exists_content_of_declared declared
  rw [payload_of_isTripPost trip content, usual]

theorem aimed_tripPath : percentDecode Server.tripPath.toList = Server.tripPath := by
  decide +kernel

theorem isTripPost_posted (body : Bytes) : IsTripPost (posted body) :=
  isTripPost_of_declared rfl aimed_tripPath rfl

/-- An object that is posted is the payload, with its members in order. -/
theorem payload_posted {fields : Fields} (readable : (Json.object fields).Readable)
    (short : (Text.toBytes (Json.object fields).compact).length ≤ bodyLimit) :
    (posted (Text.toBytes (Json.object fields).compact)).payload =
      .ok (.object (Json.orderedFields fields)) := by
  have hasBody : Text.toBytes (Json.object fields).compact ≠ [] := by
    obtain ⟨second, rest, -, bytes⟩ := Json.exists_toBytes_compact fields
    rw [bytes]
    exact List.cons_ne_nil _ _
  rw [payload_of_declared (isTripPost_posted _) rfl]
  exact (if_neg hasBody).trans (documentPayload_of_object short (Json.readBytes_compact readable))

theorem provider_of_usual : Map.Provider.ofName ({} : Settings).provider = .ok .ola := by
  rfl

/-- A document that breaks off is refused. -/
theorem answer_isDocument_iff_broken :
    let server := Server.start {} .empty []
    let message := posted (Text.toBytes "\x7b\"mileage\": 1e")
    IsTripPost message ∧ Json.IsShallow (Json.tokensOfBytes message.body) ∧
      (∃ text, ((Server.answer message).run server).1 =
        .ok (.error 400 (errorFields "invalid_json" text))) ∧
      ¬ Unanswered message := by
  intro server message
  have unread : Json.readBytes message.body = .error .malformedDocument :=
    cause?_eq_some_iff.mp (by decide +kernel)
  have trip := isTripPost_posted (Text.toBytes "\x7b\"mileage\": 1e")
  have hasBody : message.body ≠ [] := by decide +kernel
  have short : message.body.length ≤ bodyLimit := by decide +kernel
  have shallow : Json.IsShallow (Json.tokensOfBytes message.body) := by decide +kernel
  have declared : message.contentType = "application/json" := rfl
  obtain ⟨contentType, content, -⟩ := exists_content_of_declared declared
  obtain ⟨-, documents, refused, -, -⟩ :=
    answer_isDocument_iff server message provider_of_usual trip shallow
  obtain ⟨text, outcome⟩ := refused contentType content hasBody short (.inl unread)
  exact ⟨trip, shallow, ⟨text, outcome⟩,
    documents.mp ⟨_, outcome, isDocument_error (by simp) _⟩⟩

/-- A body that is no text is not answered. -/
theorem not_answer_of_noText :
    ¬ ∀ (server : Server) (message : Message) (provider : Map.Provider),
      Map.Provider.ofName server.settings.provider = .ok provider → IsTripPost message →
      ∃ answer, ((Server.answer message).run server).1 = .ok answer ∧ IsDocument answer := by
  intro sound
  have unread : Json.readBytes [255] = .error .malformedText :=
    cause?_eq_some_iff.mp (by decide +kernel)
  have unanswered : Unanswered (posted [255]) :=
    .unreadable (by simp [posted]) (by decide) unread (by decide)
  have trip := isTripPost_posted [255]
  let server := Server.start {} .empty []
  exact not_isDocument_of_unanswered server trip unanswered
    (sound server (posted [255]) .ola provider_of_usual trip)

end JourneyCost.Service
