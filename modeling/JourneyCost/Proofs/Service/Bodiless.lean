import JourneyCost.Proofs.Json.Sorted
import JourneyCost.Proofs.Service.Carriers

/-!
# Requests without a body

The payload of a request without a body is the dictionary of the form in the address, read in the
set that is declared.  But if the request declares a form there are no fields, whatever stands in
the address: what is declared is looked at before the body.
-/

namespace JourneyCost.Service

open Trip

/-- An object has each name of a list of fields once, where it comes first, with its last value. -/
structure IsDictionary (params : List (String × String)) (fields : Fields) : Prop where
  /-- The names, where they come first. -/
  names : fields.map Prod.fst = (params.map Prod.fst).eraseDups
  /-- The last value of each name. -/
  values : ∀ name, fields.find? name = (params.reverse.lookup name).map .text

section

variable {params : List (String × String)} {fields : Fields}

theorem eraseDups_concat (names : List String) (name : String) :
    (names ++ [name]).eraseDups =
      if name ∈ names then names.eraseDups else names.eraseDups ++ [name] := by
  have single : [name].eraseDups = [name] := rfl
  rw [List.eraseDups_append, List.removeAll]
  split <;> rename_i known <;> simp [known, single]

theorem fieldObject_concat (params : List (String × String)) (field : String × String) :
    fieldObject (params ++ [field]) = (fieldObject params).put field.1 (.text field.2) := by
  rw [fieldObject, List.foldl_append]
  rfl

theorem nodup_fieldObject (params : List (String × String)) :
    ((fieldObject params).map Prod.fst).Nodup := by
  induction params using List.reverseRecOn with
  | nil => exact List.nodup_nil
  | append_singleton params field induction =>
      rw [fieldObject_concat]
      exact Fields.nodup_put induction _ _

theorem isDictionary_fieldObject (params : List (String × String)) :
    IsDictionary params (fieldObject params) := by
  -- The object is built from the first field on, so the induction adds a field at the end.
  induction params using List.reverseRecOn with
  | nil => exact ⟨rfl, fun _ => rfl⟩
  | append_singleton params field induction =>
      refine ⟨?_, fun name => ?_⟩
      · rw [fieldObject_concat, Fields.map_fst_put, induction.names, List.map_append,
          List.map_singleton, eraseDups_concat]
        simp only [List.mem_eraseDups]
      · rw [fieldObject_concat, Fields.find?_put, induction.values, List.reverse_append,
          List.reverse_singleton, List.singleton_append, List.lookup_cons]
        by_cases here : name = field.1
        · simp [here]
        · simp [here, beq_false_of_ne here]

/-- An object with distinct names is made up of its names and what is found under them. -/
theorem eq_map_get (distinct : (fields.map Prod.fst).Nodup) :
    fields = (fields.map Prod.fst).map fun key => (key, fields.get key) := by
  rw [List.map_map]
  refine (List.map_id' fields).symm.trans (List.map_congr_left fun field member => ?_)
  have found : fields.find? field.1 = some field.2 := (Fields.find?_eq_some_iff distinct).mpr member
  simp [Fields.get, found]

/-- There is one dictionary for a list of fields. -/
theorem isDictionary_iff : IsDictionary params fields ↔ fields = fieldObject params := by
  have dictionary := isDictionary_fieldObject params
  constructor
  · intro other
    have distinct := nodup_fieldObject params
    have names := other.names.trans dictionary.names.symm
    have found : ∀ name, fields.get name = (fieldObject params).get name := fun name => by
      rw [Fields.get, Fields.get, other.values, dictionary.values]
    calc fields
        = (fields.map Prod.fst).map fun key => (key, fields.get key) :=
          eq_map_get (names ▸ distinct)
      _ = ((fieldObject params).map Prod.fst).map fun key =>
            (key, (fieldObject params).get key) := by
          simp only [names, found]
      _ = fieldObject params := (eq_map_get distinct).symm
  · rintro rfl
    exact dictionary

theorem isDictionary_nil_iff : IsDictionary params [] ↔ params = [] := by
  constructor
  · intro dictionary
    refine List.eq_nil_iff_forall_not_mem.mpr fun field member => ?_
    have known : field.1 ∈ (params.map Prod.fst).eraseDups :=
      List.mem_eraseDups.mpr (List.mem_map_of_mem member)
    rw [← dictionary.names] at known
    cases known
  · rintro rfl
    exact isDictionary_fieldObject []

end

/-- A content type is that of a form. -/
def ContentType.isForm (contentType : ContentType) : Bool :=
  contentType.header.main == "application/x-www-form-urlencoded" ||
    contentType.header.main == "multipart/form-data"

/-- What a declared form comes to if there is no body. -/
def Message.emptyForm (message : Message) (contentType : ContentType) : Except Fault Payload :=
  if contentType.header.main == "application/x-www-form-urlencoded" then
    if contentType.isForeign then .error .malformedForm else .ok (.object [])
  else if (boundary? message.contentType contentType.header).isNone then .ok .refused
  else .ok (.object [])

/-- The flaws of an object without members. -/
def emptyFlaws : List Flaw :=
  ["vehicle_type", "mileage", "kilometers_per_day"].map fun key => ⟨.missing, [key], .object []⟩

/-- The answer to a declared form without a body. -/
def Message.emptyFormAnswer (message : Message) (contentType : ContentType) :
    Except Fault Answer :=
  (message.emptyForm contentType).map fun
    | .refused => .page 400
    | _ => flawedAnswer emptyFlaws

section

variable {message : Message} {contentType : ContentType}

theorem read_nil : Request.read (.object []) = .ok (.flawed emptyFlaws) := rfl

theorem payload_of_bodiless (bodiless : message.body = [])
    (content : message.content = .ok contentType) :
    message.payload =
      if contentType.isForm then message.emptyForm contentType
      else queryPayload contentType.set message.query := by
  rw [Message.payload, content, ok_bind, bodiless, ContentType.isForm, Message.emptyForm]
  cases urlencoded : contentType.header.main == "application/x-www-form-urlencoded" with
  | true =>
      simp only [formPayload, if_true, Bool.true_or]
      rfl
  | false =>
      cases parts : contentType.header.main == "multipart/form-data" with
      | false => rfl
      | true =>
          simp only [Bool.false_eq_true, if_false, if_true, Bool.false_or, Message.multipartPayload,
            bodiless]
          cases boundary? message.contentType contentType.header <;> rfl

theorem emptyForm_cases (message : Message) (contentType : ContentType) :
    message.emptyForm contentType = .error .malformedForm ∨
      message.emptyForm contentType = .ok .refused ∨
        message.emptyForm contentType = .ok (.object []) := by
  unfold Message.emptyForm
  split <;> split <;> simp

/-- Without a form the address is read once more for the payload, so it does not matter when a fault
comes up. -/
theorem payload_of_noForm (bodiless : message.body = [])
    (read : ContentType.ofText message.contentType = .ok contentType)
    (form : contentType.isForm = false) :
    message.payload = queryPayload contentType.set message.query := by
  cases content : message.content with
  | ok found =>
      obtain rfl := Except.ok.inj (read.symm.trans (ofText_of_content content))
      rw [payload_of_bodiless bodiless content, form, if_neg Bool.false_ne_true]
  | error fault =>
      rw [payload_of_content_eq_error content, queryPayload]
      cases fields : queryFields contentType.set message.query with
      | error cause =>
          cases charset : contentType.charset with
          | none =>
              rw [content_of_usual read charset] at content
              cases content
          | some set =>
              rw [content_of_queryFields_eq_error read (by simp [charset]) fields] at content
              rw [Except.error.inj content]
              rfl
      | ok params =>
          rw [content_of_queryFields read fields] at content
          cases content

/-- The payload is the dictionary of the fields in the address exactly if they can be read and no
form is declared, or if a form is accepted and there are none. -/
theorem payload_isDictionary_iff (bodiless : message.body = [])
    (read : ContentType.ofText message.contentType = .ok contentType) :
    (∃ params fields, queryFields contentType.set message.query = .ok params ∧
        message.payload = .ok (.object fields) ∧ IsDictionary params fields) ↔
      ∃ params, queryFields contentType.set message.query = .ok params ∧
        (contentType.isForm = true →
          message.emptyForm contentType = .ok (.object []) ∧ params = []) := by
  refine exists_congr fun params => ?_
  rw [exists_and_left]
  refine and_congr_right fun given => ?_
  rw [payload_of_bodiless bodiless (content_of_queryFields read given)]
  cases contentType.isForm with
  | false => simp [queryPayload, given, Except.map, isDictionary_iff]
  | true =>
      rcases emptyForm_cases message contentType with form | form | form
      · simp [form]
      · simp [form]
      · simp [form, isDictionary_nil_iff]

section

variable (post : IsPost message) (bodiless : message.body = [])
  (read : ContentType.ofText message.contentType = .ok contentType) (server : Server)

include post bodiless read

theorem run_answer_of_unread {fault : Fault}
    (failed : queryFields contentType.set message.query = .error fault)
    (asked : contentType.isForm = true → contentType.charset.isSome) :
    (Server.answer message).run server = (.error fault, server) := by
  have payload : message.payload = .error fault := by
    cases form : contentType.isForm with
    | false =>
        rw [payload_of_noForm bodiless read form, queryPayload, failed]
        rfl
    | true =>
        exact payload_of_content_eq_error
          (content_of_queryFields_eq_error read (asked form) failed)
  rw [run_answer_of_post post.posted post.aimed, Server.run_answerTrip, payload]

theorem run_answer_of_form (form : contentType.isForm = true)
    (sound : contentType.charset.isSome →
      ∃ params, queryFields contentType.set message.query = .ok params) :
    (Server.answer message).run server = (message.emptyFormAnswer contentType, server) := by
  have content : message.content = .ok contentType := by
    cases charset : contentType.charset with
    | none => exact content_of_usual read charset
    | some set =>
        obtain ⟨params, given⟩ := sound (by rw [charset]; rfl)
        exact content_of_queryFields read given
  rw [run_answer_of_post post.posted post.aimed, Server.run_answerTrip,
    payload_of_bodiless bodiless content, if_pos form, Message.emptyFormAnswer]
  rcases emptyForm_cases message contentType with empty | empty | empty
  · rw [empty]
    rfl
  · rw [empty]
    rfl
  · rw [empty]
    simp only [Server.run_answerFields, read_nil]
    rfl

theorem run_answer_of_noForm (form : contentType.isForm = false)
    (alike : queryFields contentType.set message.query =
      queryFields usualCharset message.query) :
    (Server.answer message).run server =
      (Server.answer { message with contentType := "application/json" }).run server := by
  have trip : IsTripPost { message with contentType := "application/json" } :=
    isTripPost_of_declared post.posted post.aimed rfl
  rw [run_answer_of_post post.posted post.aimed, run_answer_of_isTripPost trip,
    Server.run_answerTrip, Server.run_answerTrip, payload_of_noForm bodiless read form,
    payload_of_declared trip rfl, if_pos bodiless, queryPayload, queryPayload, alike]

/-- A post without a body that declares no form is answered from the dictionary of the form in the
address, as its set reads it: like one that is declared as a document if its set reads the address
as UTF-8 does, which it does if none is declared.  A post that declares a form is answered without
regard to what the fields in the address are: as an object without members at best.  Neither is
answered if its set cannot read the address. -/
theorem answer_of_bodiless :
    ((∃ params fields, queryFields contentType.set message.query = .ok params ∧
        message.payload = .ok (.object fields) ∧ IsDictionary params fields) ↔
      ∃ params, queryFields contentType.set message.query = .ok params ∧
        (contentType.isForm = true →
          message.emptyForm contentType = .ok (.object []) ∧ params = [])) ∧
    (contentType.charset = none →
      queryFields contentType.set message.query =
        if hasTooManyFields message.query then .error .tooManyFields
        else .ok (formFields message.query)) ∧
    (∀ fault, queryFields contentType.set message.query = .error fault →
      (contentType.isForm = true → contentType.charset.isSome) →
      (Server.answer message).run server = (.error fault, server)) ∧
    (contentType.isForm = false →
      queryFields contentType.set message.query = queryFields usualCharset message.query →
      (Server.answer message).run server =
        (Server.answer { message with contentType := "application/json" }).run server) ∧
    (contentType.isForm = true →
      (contentType.charset.isSome →
        ∃ params, queryFields contentType.set message.query = .ok params) →
      (Server.answer message).run server = (message.emptyFormAnswer contentType, server)) := by
  refine ⟨payload_isDictionary_iff bodiless read, fun usual => ?_, fun fault => ?_, ?_, ?_⟩
  · rw [set_of_usual usual, queryFields_usualCharset]
  · exact run_answer_of_unread post bodiless read server
  · exact run_answer_of_noForm post bodiless read server
  · exact run_answer_of_form post bodiless read server

end

end

/-- A post without a body that declares a form. -/
def declaredForm (query : String) : Message :=
  ⟨"POST", Server.tripPath, query, "application/x-www-form-urlencoded", []⟩

theorem payload_declaredForm (query : String) :
    (declaredForm query).payload = .ok (.object []) := by
  obtain ⟨contentType, read, main, usual⟩ := exists_ofText_form
  have declared : ContentType.ofText (declaredForm query).contentType = .ok contentType := read
  have content : (declaredForm query).content = .ok contentType := content_of_usual declared usual
  rw [payload_of_bodiless rfl content, ContentType.isForm, Message.emptyForm, main,
    isForeign_of_usual usual]
  rfl

/-- The mileage in the address is missing in the eyes of the service. -/
theorem answer_of_bodiless_mileage : IsPost (declaredForm "mileage=3") ∧
    formFields (declaredForm "mileage=3").query = [("mileage", "3")] ∧
      ∀ server, (Server.answer (declaredForm "mileage=3")).run server =
        (.ok (flawedAnswer emptyFlaws), server) := by
  refine ⟨isPost_trip _ _ _, by decide +kernel, fun server => ?_⟩
  obtain ⟨contentType, read, main, usual⟩ := exists_ofText_form
  have form : contentType.isForm = true := by
    rw [ContentType.isForm, main]
    rfl
  obtain ⟨-, -, -, -, answered⟩ := answer_of_bodiless (isPost_trip _ _ _) rfl read server
  refine (answered form fun declared => by simp [usual] at declared).trans ?_
  rw [Message.emptyFormAnswer, Message.emptyForm, main, isForeign_of_usual usual]
  rfl

/-- A post without a body with an accent in the address, in another set than the usual one. -/
def foreignQuery (contentType : String) : Message :=
  ⟨"POST", Server.tripPath, "start=Orl%E9ans", contentType, []⟩

theorem payload_foreignQuery :
    (foreignQuery "text/plain; charset=iso-8859-1").payload =
      .ok (.object [("start", .text "Orléans")]) := by
  have parts : ((ContentType.ofText "text/plain; charset=iso-8859-1").toOption.bind
      fun contentType => (queryFields contentType.set "start=Orl%E9ans").toOption.map
        fun params => (contentType.isForm, params)) = some (false, [("start", "Orléans")]) := by
    decide +kernel
  obtain ⟨contentType, found, fields⟩ := Option.bind_eq_some_iff.mp parts
  obtain ⟨params, given, same⟩ := Option.map_eq_some_iff.mp fields
  obtain ⟨form, rfl⟩ := Prod.mk.inj same
  have read : ContentType.ofText (foreignQuery "text/plain; charset=iso-8859-1").contentType =
      .ok contentType := toOption_eq_some_iff.mp found
  rw [payload_of_noForm rfl read form, queryPayload]
  exact congrArg _ (toOption_eq_some_iff.mp given)

theorem payload_usualQuery :
    (foreignQuery "application/json").payload =
      .ok (.object [("start", .text "Orl\ufffdans")]) := by
  have few : hasTooManyFields "start=Orl%E9ans" = false := by decide +kernel
  have fields : formFields "start=Orl%E9ans" = [("start", "Orl\ufffdans")] := by decide +kernel
  have trip : IsTripPost (foreignQuery "application/json") :=
    isTripPost_of_declared rfl aimed_tripPath rfl
  rw [payload_of_declared trip rfl]
  refine (queryPayload_of_not_crowded few).trans ?_
  rw [fields]
  rfl

/-- A form of separators alone has one field more than it has separators. -/
theorem hasTooManyFields_replicate {n : Nat} (many : fieldLimit ≤ n) :
    hasTooManyFields (String.ofList (List.replicate n '&')) = true := by
  rw [hasTooManyFields, String.toList_ofList, Text.length_splitChars, List.count_replicate_self]
  exact decide_eq_true (Nat.lt_succ_of_le many)

/-- The payload is not always that of the same request declared as a document, or the dictionary of
the form in the address: it has no members if a form is declared, there is none if the address has a
thousand separators, and a declared set may read the address in another way. -/
theorem not_isDictionary_of_bodiless :
    let crowded : Message :=
      ⟨"POST", Server.tripPath, String.ofList (List.replicate 1000 '&'), "application/json", []⟩
    (IsPost (declaredForm "mileage=3") ∧ (declaredForm "mileage=3").payload = .ok (.object []) ∧
      ¬ IsDictionary (formFields (declaredForm "mileage=3").query) []) ∧
    (IsPost crowded ∧ crowded.payload = .error .tooManyFields) ∧
    (∀ contentType, IsPost (foreignQuery contentType)) ∧
      (foreignQuery "text/plain; charset=iso-8859-1").payload ≠
        (foreignQuery "application/json").payload := by
  intro crowded
  refine ⟨⟨isPost_trip _ _ _, payload_declaredForm _, ?_⟩, ⟨isPost_trip _ _ _, ?_⟩,
    fun _ => isPost_trip _ _ _, ?_⟩
  · rw [isDictionary_nil_iff]
    decide +kernel
  · have trip : IsTripPost crowded := isTripPost_of_declared rfl aimed_tripPath rfl
    rw [payload_of_declared trip rfl, if_pos rfl]
    exact queryPayload_of_crowded (hasTooManyFields_replicate le_rfl)
  · rw [payload_foreignQuery, payload_usualQuery]
    intro same
    simp at same

end JourneyCost.Service
