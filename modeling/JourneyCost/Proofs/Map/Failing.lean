import JourneyCost.Proofs.Fault
import JourneyCost.Proofs.Geo.Position
import JourneyCost.Proofs.Json.Nesting
import JourneyCost.Proofs.Json.Refusal
import JourneyCost.Proofs.Map.Reading

/-!
# Services that fail

Looking a place up and asking for directions fail with a fault of the service; mending a route goes
on with nothing instead.  What escapes both rules is a coordinate that no float can hold, and a
snap that offers a number or a truth value where a list should be.
-/

namespace JourneyCost.Map

open Net
open Json (HugePair readPair)

/-- The fault of a service that did not do its part. -/
def IsServiceFault (fault : Fault) : Prop :=
  ∃ message status reason, fault = .providerFailed message status reason

/-- The document in the body of a success, if there is one, is shallow. -/
def IsShallowReply (reply : Reply) : Prop :=
  ∀ body, reply = .answer 200 body → Json.IsShallow (Json.tokensOfBytes body)

/-- A reply names a place with a coordinate that no float can hold. -/
def HugePlace (reply : Reply) : Prop :=
  ∃ body payload, reply = .answer 200 body ∧ Json.readBytes body = .ok payload ∧
    Geo.HugeFeature payload

/-- A reply that is of no use: a failure, a status that is no success, or no object. -/
def Useless (reply : Reply) : Prop :=
  (∃ kind, reply = .dropped kind) ∨
    ∃ status body, reply = .answer status body ∧
      (status ≠ 200 ∨ ∀ fields, Json.readBytes body ≠ .ok (.object fields))

/-- An item of a snap has a coordinate that no float can hold. -/
inductive HugeItem : Provider → Json → Prop
  /-- Named in an object. -/
  | ola {fields location : Fields} :
      fields.get "location" = .object location →
      HugePair ((Json.object location).member "lng") ((Json.object location).member "lat") →
      HugeItem .ola (.object fields)
  /-- In a pair. -/
  | ors {fields : Fields} {place lon lat : Json} :
      (Json.object fields).member "location" = .ok place →
      Client.exactPair place = .ok (lon, lat) → HugePair (.ok lon) (.ok lat) →
      HugeItem .ors (.object fields)

/-- What a snap breaks off with if its reply offers something. -/
inductive SpoiledSnap (provider : Provider) : Reply → Fault → Prop
  /-- A number or a truth value is offered in place of a list. -/
  | noList {body : Bytes} {payload offered : Json} :
      Json.readBytes body = .ok payload → Client.snappedItems provider payload = .ok offered →
      offered.elements = .error .wrongKind →
      SpoiledSnap provider (.answer 200 body) .wrongKind
  /-- An item has a coordinate that no float can hold. -/
  | hugeItem {body : Bytes} {payload offered item : Json} {items : List Json} :
      Json.readBytes body = .ok payload → Client.snappedItems provider payload = .ok offered →
      offered.elements = .ok items → item ∈ items → HugeItem provider item →
      SpoiledSnap provider (.answer 200 body) .overflow

namespace Client

variable {client : Client} {reply : Reply} {fault : Fault}

theorem contents_eq_error (called : reply ≠ .badAddress)
    (failed : client.contents reply = .error fault) :
    IsServiceFault fault := by
  cases reply with
  | answer status body => simp [contents] at failed
  | dropped kind => exact ⟨_, _, _, (Except.error.inj failed).symm⟩
  | badAddress => exact absurd rfl called

theorem isForgiven_of_readBytes {body : Bytes} (refused : Json.readBytes body = .error fault) :
    isForgiven fault = true := by
  have malformed := Json.isMalformed_of_readBytes refused
  unfold isForgiven
  split
  · rfl
  · exact malformed

theorem readPlace_eq_error {status : Int} {body : Bytes}
    (failed : client.readPlace status body = .error fault) :
    IsServiceFault fault ∨ fault = .overflow := by
  unfold readPlace at failed
  split at failed
  · exact .inl ⟨_, _, _, (Except.error.inj failed).symm⟩
  · split at failed
    · exact .inr (Geo.firstFeature_eq_error_iff.mp failed).1
    · rename_i cause refused
      rw [if_pos (Json.isMalformed_of_readBytes refused)] at failed
      exact .inl ⟨_, _, _, (Except.error.inj failed).symm⟩

theorem readPlace_eq_overflow_iff {status : Int} {body : Bytes} :
    client.readPlace status body = .error .overflow ↔ HugePlace (.answer status body) := by
  unfold readPlace HugePlace
  by_cases success : status = 200
  · subst success
    cases read : Json.readBytes body with
    | ok payload => simp [Geo.firstFeature_eq_error_iff, read]
    | error cause => simp [Json.isMalformed_of_readBytes read, read]
  · simp [success]

theorem placeIn_eq_error (called : reply ≠ .badAddress)
    (failed : client.placeIn reply = .error fault) : IsServiceFault fault ∨ fault = .overflow := by
  rw [placeIn, bind_eq_error] at failed
  rcases failed with unanswered | ⟨content, -, unread⟩
  · exact .inl (contents_eq_error called unanswered)
  · exact readPlace_eq_error unread

theorem placeIn_eq_overflow_iff (called : reply ≠ .badAddress) :
    client.placeIn reply = .error .overflow ↔ HugePlace reply := by
  cases reply with
  | answer status body => exact readPlace_eq_overflow_iff
  | dropped kind => simp [placeIn, contents, HugePlace]
  | badAddress => exact absurd rfl called

theorem directionsIn_eq_error (called : reply ≠ .badAddress)
    (failed : client.directionsIn reply = .error fault) : IsServiceFault fault := by
  rw [directionsIn, bind_eq_error] at failed
  rcases failed with unanswered | ⟨content, -, returned⟩
  · exact contents_eq_error called unanswered
  · simp [pure, Except.pure] at returned

theorem nearestIn_of_success (client : Client) (body : Bytes) :
    client.nearestIn (.answer 200 body) =
      recoverWhen isForgiven none (Json.readBytes body >>= Geo.firstFeature) := rfl

theorem nearestIn_of_failure {status : Int} (body : Bytes) (failure : status ≠ 200) :
    client.nearestIn (.answer status body) = .ok none := by
  simp [nearestIn, contents, failure, pure, Except.pure]

theorem nearestIn_eq_error_iff (called : reply ≠ .badAddress) :
    client.nearestIn reply = .error fault ↔ fault = .overflow ∧ HugePlace reply := by
  cases reply with
  | badAddress => exact absurd rfl called
  | dropped kind => simp [nearestIn, contents, HugePlace, recoverWhen, isForgiven]
  | answer status body =>
      by_cases success : status = 200
      · subst success
        rw [nearestIn_of_success,
          recoverWhen_bind_eq_error_iff fun cause => isForgiven_of_readBytes]
        simp only [recoverWhen_eq_error, Geo.firstFeature_eq_error_iff, HugePlace]
        constructor
        · rintro ⟨payload, parsed, ⟨overflow, huge⟩, -⟩
          exact ⟨overflow, body, payload, rfl, parsed, huge⟩
        · rintro ⟨rfl, same, payload, answered, parsed, huge⟩
          obtain ⟨-, rfl⟩ := Reply.answer.inj answered
          exact ⟨payload, parsed, ⟨rfl, huge⟩, rfl⟩
      · simp [nearestIn_of_failure body success, HugePlace, success]

theorem nearestIn_of_useless (useless : Useless reply) : client.nearestIn reply = .ok none := by
  rcases useless with ⟨kind, rfl⟩ | ⟨status, body, rfl, unusable⟩
  · rfl
  · by_cases success : status = 200
    · subst success
      rw [nearestIn_of_success]
      cases parsed : Json.readBytes body with
      | error cause => simp [recoverWhen, isForgiven_of_readBytes parsed]
      | ok payload =>
          cases payload with
          | object fields =>
              rcases unusable with failure | noObject
              · exact absurd rfl failure
              · exact absurd parsed (noObject fields)
          | null | bool | int | float | text | list => rfl
    · exact nearestIn_of_failure body success

/-- What a snap offers; nothing if it is of no use. -/
def offered (provider : Provider) (status : Int) (body : Bytes) : Json :=
  if status = 200 then (Json.readBytes body >>= snappedItems provider).toOption.getD (.list [])
  else .list []

theorem readSnapped_eq (client : Client) (status : Int) (body : Bytes) :
    client.readSnapped status body = .ok (offered client.provider status body) := by
  unfold readSnapped offered
  by_cases success : status = 200
  · simp only [success, bne_self_eq_false, Bool.false_eq_true, if_false, if_true]
    cases parsed : Json.readBytes body with
    | error cause =>
        simp [recoverWhen, Json.isMalformed_of_readBytes parsed, Except.toOption]
    | ok payload =>
        rw [ok_bind]
        cases payload with
        | object fields => rfl
        | null | bool | int | float | text | list => rfl
  · simp [success]

theorem exactPair_eq_error {place : Json} (failed : exactPair place = .error fault) :
    fault.isUnusable = true := by
  unfold exactPair at failed
  split at failed
  · simp at failed
  · obtain rfl := Except.error.inj failed
    rfl
  · split at failed
    · simp at failed
    · obtain rfl := Except.error.inj failed
      rfl
  · obtain rfl := Except.error.inj failed
    rfl

theorem snappedPoint_ola_eq_error_iff {fields : Fields} :
    snappedPoint .ola (.object fields) = .error fault ↔
      fault = .overflow ∧ HugeItem .ola (.object fields) := by
  cases named : fields.get "location" with
  | object location =>
      have read : snappedPoint .ola (.object fields) = recoverWhen Fault.isUnusable none
          (readPair ((Json.object location).member "lng") ((Json.object location).member "lat")
            fun x y => some ⟨x, y⟩) := by
        simp only [snappedPoint, named]
        rfl
      rw [read, Geo.recoverWhen_isUnusable_eq_error_iff (fun _ => Json.isUnusable_of_member)
        fun _ => Json.isUnusable_of_member]
      constructor
      · rintro ⟨overflow, huge⟩
        exact ⟨overflow, .ola named huge⟩
      · rintro ⟨overflow, huge⟩
        cases huge with
        | ola other huge =>
            obtain rfl := Json.object.inj (named.symm.trans other)
            exact ⟨overflow, huge⟩
  | null | bool | int | float | text | list =>
      have skipped : snappedPoint .ola (.object fields) = .ok none := by
        simp only [snappedPoint, named]
      rw [skipped]
      constructor
      · intro failed
        simp at failed
      · rintro ⟨-, huge⟩
        cases huge with
        | ola other huge => simp [named] at other

theorem snappedPoint_ors_eq_error_iff {fields : Fields} :
    snappedPoint .ors (.object fields) = .error fault ↔
      fault = .overflow ∧ HugeItem .ors (.object fields) := by
  have read : snappedPoint .ors (.object fields) = recoverWhen Fault.isUnusable none
      (((Json.object fields).member "location" >>= exactPair) >>= fun pair =>
        readPair (.ok pair.1) (.ok pair.2) fun x y => some ⟨x, y⟩) := by
    rw [bind_assoc]
    rfl
  have unusable : ∀ cause, ((Json.object fields).member "location" >>= exactPair) = .error cause →
      cause.isUnusable = true := by
    intro cause failed
    rcases bind_eq_error.mp failed with absent | ⟨place, -, noPair⟩
    · exact Json.isUnusable_of_member absent
    · exact exactPair_eq_error noPair
  rw [read, recoverWhen_bind_eq_error_iff unusable]
  simp only [bind_eq_ok]
  constructor
  · rintro ⟨⟨lon, lat⟩, ⟨place, present, pair⟩, failed⟩
    rw [Geo.recoverWhen_isUnusable_eq_error_iff (by simp) (by simp)] at failed
    exact ⟨failed.1, .ors present pair failed.2⟩
  · rintro ⟨rfl, huge⟩
    cases huge with
    | ors present pair huge =>
        refine ⟨_, ⟨_, present, pair⟩, ?_⟩
        rw [Geo.recoverWhen_isUnusable_eq_error_iff (by simp) (by simp)]
        exact ⟨rfl, huge⟩

theorem snappedPoint_eq_error_iff {provider : Provider} {item : Json} :
    snappedPoint provider item = .error fault ↔ fault = .overflow ∧ HugeItem provider item := by
  cases item with
  | object fields =>
      cases provider with
      | ola => exact snappedPoint_ola_eq_error_iff
      | ors => exact snappedPoint_ors_eq_error_iff
  | null | bool | int | float | text | list =>
      constructor
      · intro failed
        simp [snappedPoint] at failed
      · rintro ⟨-, huge⟩
        cases huge

theorem snappedIn_answer (client : Client) (status : Int) (body : Bytes) :
    client.snappedIn (.answer status body) = do
      let elements ← (offered client.provider status body).elements
      return (← elements.mapM (snappedPoint client.provider)).filterMap id := by
  unfold snappedIn contents
  simp only [ok_bind, readSnapped_eq, recoverWhen_ok]

theorem snappedIn_dropped (client : Client) (kind : String) :
    client.snappedIn (.dropped kind) = .ok [] := rfl

theorem offered_of_read {provider : Provider} {body : Bytes} {payload found : Json}
    (read : Json.readBytes body = .ok payload) (items : snappedItems provider payload = .ok found) :
    offered provider 200 body = found := by
  simp [offered, read, items, Except.toOption]

theorem offered_cases (provider : Provider) (status : Int) (body : Bytes) :
    offered provider status body = .list [] ∨
      status = 200 ∧ ∃ payload, Json.readBytes body = .ok payload ∧
        snappedItems provider payload = .ok (offered provider status body) := by
  by_cases success : status = 200
  · cases read : Json.readBytes body with
    | error cause => exact .inl (by simp [offered, success, read, Except.toOption])
    | ok payload =>
        cases items : snappedItems provider payload with
        | error cause => exact .inl (by simp [offered, success, read, items, Except.toOption])
        | ok found =>
            refine .inr ⟨success, payload, rfl, ?_⟩
            rw [success, offered_of_read read items]
            exact items
  · exact .inl (if_neg success)

theorem elements_eq_error {value : Json} (failed : value.elements = .error fault) :
    fault = .wrongKind := by
  cases value with
  | list | text | object => simp [Json.elements] at failed
  | null | bool | int | float => exact (Except.error.inj failed).symm

theorem snappedIn_eq_error_iff (called : reply ≠ .badAddress) :
    client.snappedIn reply = .error fault ↔ SpoiledSnap client.provider reply fault := by
  cases reply with
  | badAddress => exact absurd rfl called
  | dropped kind =>
      rw [snappedIn_dropped]
      constructor
      · intro failed
        simp at failed
      · intro spoiled
        cases spoiled
  | answer status body =>
      have items : ∀ elements : List Json,
          elements.mapM (snappedPoint client.provider) = .error fault ↔
            fault = .overflow ∧ ∃ item ∈ elements, HugeItem client.provider item :=
        fun elements => mapM_eq_error_iff_exists fun item _ cause => snappedPoint_eq_error_iff
      rw [snappedIn_answer]
      simp only [bind_eq_error, pure, Except.pure, reduceCtorEq, and_false, exists_false, or_false,
        items]
      constructor
      · intro failed
        rcases offered_cases client.provider status body with nothing | ⟨rfl, payload, read, same⟩
        · rw [nothing] at failed
          simp [Json.elements] at failed
        · rcases failed with noList | ⟨elements, listed, rfl, item, mem, huge⟩
          · obtain rfl := elements_eq_error noList
            exact .noList read same noList
          · exact .hugeItem read same listed mem huge
      · intro spoiled
        cases spoiled with
        | noList read same noList => exact .inl (by rw [offered_of_read read same, noList])
        | hugeItem read same listed mem huge =>
            exact .inr ⟨_, by rw [offered_of_read read same, listed], rfl, _, mem, huge⟩

theorem snappedIn_of_useless (useless : Useless reply) : client.snappedIn reply = .ok [] := by
  rcases useless with ⟨kind, rfl⟩ | ⟨status, body, rfl, unusable⟩
  · exact snappedIn_dropped client kind
  · have nothing : offered client.provider status body = .list [] := by
      rcases offered_cases client.provider status body with nothing | ⟨success, payload, read, same⟩
      · exact nothing
      · rcases unusable with failed | noObject
        · exact absurd success failed
        · cases payload with
          | object fields => exact absurd read (noObject fields)
          | null | bool | int | float | text | list => simp [snappedItems] at same
    rw [snappedIn_answer, nothing]
    rfl

/-! ## What a client can fail with -/

/-- If the address can be called at all and the reply is shallow, a place or directions are given or
the service is to blame, and positions on the road and the nearest place are given, none if the
reply is of no use.  The exceptions are a place with a coordinate that no float can hold, and a snap
that is spoiled.  The query is any text without halves of surrogate pairs. -/
theorem faults_of_replies (client : Client) (query : String) (p q : Point) (wire : Wire)
    (called : wire.nextReply ≠ .badAddress) (shallow : IsShallowReply wire.nextReply) :
    (∀ body, wire.nextReply = .answer 200 body →
      Json.FitsIn Json.nestingLimit (Json.tokensOfBytes body)) ∧
    (∀ fault, ((client.geocode query).run wire).1 = .error fault →
      IsServiceFault fault ∨ fault = .overflow) ∧
    (((client.geocode query).run wire).1 = .error .overflow ↔
      wire.known? (client.placeKey query) = none ∧ HugePlace wire.nextReply) ∧
    (∀ fault, ((client.directions p q).run wire).1 = .error fault → IsServiceFault fault) ∧
    (∀ fault, ((client.snap p q).run wire).1 = .error fault ↔
      SpoiledSnap client.provider wire.nextReply fault) ∧
    (∀ fault, ((client.reverse p).run wire).1 = .error fault ↔
      fault = .overflow ∧ HugePlace wire.nextReply) ∧
    (Useless wire.nextReply →
      ((client.snap p q).run wire).1 = .ok [] ∧ ((client.reverse p).run wire).1 = .ok none) := by
  rw [run_geocode, run_lookUp, run_directions, run_snap, run_reverse]
  refine ⟨?_, ?_, ?_, ?_, ?_, ?_, ?_⟩
  · exact fun body given => Json.fitsIn_of_isShallow (shallow body given)
  · intro fault failed
    cases known : wire.known? (client.placeKey query) with
    | some place => simp [known] at failed
    | none =>
        rw [known] at failed
        exact placeIn_eq_error called failed
  · cases known : wire.known? (client.placeKey query) with
    | some place => simp
    | none => simpa using placeIn_eq_overflow_iff called
  · exact fun fault failed => directionsIn_eq_error called failed
  · exact fun fault => snappedIn_eq_error_iff called
  · exact fun fault => nearestIn_eq_error_iff called
  · exact fun useless => ⟨snappedIn_of_useless useless, nearestIn_of_useless useless⟩

/-- A service that answers with a page in place of a document. -/
theorem faults_of_replies_unavailable :
    let client : Client := ⟨.ors, "https://maps.example", "key", .int 2000, {}⟩
    let wire : Wire := .start [.answer 200 (Text.toBytes "<html>")] true
    wire.nextReply ≠ .badAddress ∧ IsShallowReply wire.nextReply ∧ Useless wire.nextReply ∧
      ((client.snap ⟨77, 28⟩ ⟨75, 26⟩).run wire).1 = .ok [] ∧
      ((client.reverse ⟨77, 28⟩).run wire).1 = .ok none ∧
      ∃ fault, ((client.geocode "Agra").run wire).1 = .error fault ∧ IsServiceFault fault := by
  intro client wire
  have called : wire.nextReply ≠ .badAddress := by
    intro same
    cases same
  have noDocument : Json.readBytes (Text.toBytes "<html>") = .error .malformedDocument :=
    cause?_eq_some_iff.mp (by decide +kernel)
  have useless : Useless wire.nextReply :=
    .inr ⟨200, _, rfl, .inr fun fields read => by cases noDocument.symm.trans read⟩
  have shallow : IsShallowReply wire.nextReply := by
    intro body given
    obtain ⟨-, rfl⟩ := Reply.answer.inj given
    decide +kernel
  obtain ⟨-, geocode, overflows, -, -, -, forgone⟩ :=
    faults_of_replies client "Agra" ⟨77, 28⟩ ⟨75, 26⟩ wire called shallow
  obtain ⟨snapped, nearest⟩ := forgone useless
  have refused : (cause? ((client.geocode "Agra").run wire).1).isSome = true := by decide +kernel
  obtain ⟨fault, found⟩ := Option.isSome_iff_exists.mp refused
  have outcome := cause?_eq_some_iff.mp found
  refine ⟨called, shallow, useless, snapped, nearest, fault, outcome, ?_⟩
  rcases geocode fault outcome with service | rfl
  · exact service
  · obtain ⟨-, body, payload, given, read, -⟩ := overflows.mp outcome
    obtain ⟨-, rfl⟩ := Reply.answer.inj given
    cases noDocument.symm.trans read

/-- A snap that offers a number where a list should be breaks off. -/
theorem not_snap_of_number :
    ¬ ∀ (client : Client) (p q : Point) (wire : Wire), wire.nextReply ≠ .badAddress →
      ∃ points, ((client.snap p q).run wire).1 = .ok points := by
  intro sound
  let client : Client := ⟨.ors, "https://api.openrouteservice.org", "ors-key", .int 2000, {}⟩
  let wire : Wire := .start [.answer 200 (Text.toBytes "\x7b\"locations\": 5\x7d")] true
  obtain ⟨points, snapped⟩ := sound client ⟨77.209, 28.6139⟩ ⟨75.7873, 26.9124⟩ wire (by
    intro same
    cases same)
  have broken : ((client.snap ⟨77.209, 28.6139⟩ ⟨75.7873, 26.9124⟩).run wire).1 =
      .error .wrongKind := cause?_eq_some_iff.mp (by decide +kernel)
  cases broken.symm.trans snapped

end Client

end JourneyCost.Map
