import JourneyCost.Proofs.Service.Answers
import JourneyCost.Proofs.Service.Encoded

/-!
# Three ways to send fields

Fields are sent as a document in the body, as a form in the body, or as a form in the address.  A
message that carries them in one of these ways has the same payload as in the others, so it is
answered alike, and asks the same of the map service.
-/

namespace JourneyCost.Service

open Json (WritesObject textFields)
open Text (toBytes)
open Trip (HugeCoordinate)

/-- A post to the path of estimates. -/
structure IsPost (message : Message) : Prop where
  /-- It is posted. -/
  posted : message.method = "POST"
  /-- It goes to the path of estimates. -/
  aimed : percentDecode message.path.toList = Server.tripPath

/-- The ways in which a message carries fields. -/
inductive Carries (fields : List (String × String)) (message : Message) : Prop where
  /-- As a document in the body. -/
  | document {written : List Char} : message.contentType = "application/json" →
      WritesObject fields written → message.body = toBytes (String.ofList written) →
      message.body.length ≤ bodyLimit → Carries fields message
  /-- As a form in the body; without fields there is no body, and then no form in the address. -/
  | form {written : List Char} : message.contentType = "application/x-www-form-urlencoded" →
      EncodesForm fields written → message.body = toBytes (String.ofList written) →
      message.body.length ≤ bodyLimit → fields.length ≤ fieldLimit →
      (fields = [] → message.query = "") → Carries fields message
  /-- As a form in the address. -/
  | address {written : List Char} : message.contentType = "application/json" →
      message.body = [] → EncodesForm fields written → message.query = String.ofList written →
      fields.length ≤ fieldLimit → Carries fields message

variable {fields : List (String × String)} {message : Message} {written : List Char}

theorem isPost_trip (query contentType : String) (body : Bytes) :
    IsPost ⟨"POST", Server.tripPath, query, contentType, body⟩ where
  posted := rfl
  aimed := aimed_tripPath

/-- Fields that are not too many can be sent in the address, and in the body in both ways if that
does not get too long. -/
theorem exists_carries (few : fields.length ≤ fieldLimit) : ∃ document form : List Char,
    Carries fields ⟨"POST", Server.tripPath, String.ofList form, "application/json", []⟩ ∧
      ((toBytes (String.ofList document)).length ≤ bodyLimit →
        Carries fields
          ⟨"POST", Server.tripPath, "", "application/json", toBytes (String.ofList document)⟩) ∧
      ((toBytes (String.ofList form)).length ≤ bodyLimit →
        Carries fields ⟨"POST", Server.tripPath, "", "application/x-www-form-urlencoded",
          toBytes (String.ofList form)⟩) := by
  obtain ⟨document, writes⟩ := Json.exists_writesObject fields
  obtain ⟨form, encodes⟩ := exists_encodesForm fields
  refine ⟨document, form, .address rfl rfl encodes rfl few, fun short => ?_, fun short => ?_⟩
  · exact .document rfl writes rfl short
  · exact .form rfl encodes rfl short few fun _ => rfl

theorem exists_ofText_form : ∃ contentType,
    ContentType.ofText "application/x-www-form-urlencoded" = .ok contentType ∧
      contentType.header.main = "application/x-www-form-urlencoded" ∧
      contentType.charset = none :=
  exists_ofText (by decide +kernel)

theorem isForeign_of_usual {contentType : ContentType} (usual : contentType.charset = none) :
    contentType.isForeign = false := by
  rw [ContentType.isForeign, usual, Option.isSome_none, Bool.false_and]

theorem queryPayload_of_encodesForm (encodes : EncodesForm fields written)
    (names : (fields.map Prod.fst).Nodup) (few : fields.length ≤ fieldLimit) :
    queryPayload usualCharset (String.ofList written) = .ok (.object (textFields fields)) := by
  rw [queryPayload_of_not_crowded (not_hasTooManyFields encodes few),
    formFields_of_encodesForm encodes, fieldObject_of_nodup names]

theorem formPayload_of_encodesForm (encodes : EncodesForm fields written)
    (names : (fields.map Prod.fst).Nodup) (few : fields.length ≤ fieldLimit)
    {contentType : ContentType} (native : contentType.isForeign = false)
    (short : (toBytes (String.ofList written)).length ≤ bodyLimit) :
    formPayload contentType (toBytes (String.ofList written)) =
      .ok (.object (textFields fields)) := by
  have text : formText (toBytes (String.ofList written)) = String.ofList written := by
    rw [formText, Text.ofBytes?_toBytes, Option.getD_some]
  rw [formPayload, native, if_neg Bool.false_ne_true, if_neg (Nat.not_lt.mpr short), text,
    formObject?_of_encodesForm encodes names few]
  rfl

/-- The payload of a message is the object of the fields that it carries. -/
theorem payload_of_carries (post : IsPost message) (carries : Carries fields message)
    (names : (fields.map Prod.fst).Nodup) :
    message.payload = .ok (.object (textFields fields)) := by
  cases carries with
  | @document written declared writes body short =>
      have trip := isTripPost_of_declared post.posted post.aimed declared
      have read := Json.readBytes_of_writesObject writes names
      rw [← body] at read
      have hasBody : message.body ≠ [] := by
        intro noBody
        rw [noBody] at read
        cases read
      rw [payload_of_declared trip declared, if_neg hasBody]
      exact documentPayload_of_object short read
  | @form written declared encodes body short few =>
      obtain ⟨contentType, read, main, usual⟩ := exists_ofText_form
      have content := content_of_usual (declared ▸ read) usual
      rw [body] at short
      rw [Message.payload, content, ok_bind, main, if_pos (beq_self_eq_true _), body]
      exact formPayload_of_encodesForm encodes names few (isForeign_of_usual usual) short
  | @address written declared noBody encodes query few =>
      have trip := isTripPost_of_declared post.posted post.aimed declared
      rw [payload_of_declared trip declared, if_pos noBody, query]
      exact queryPayload_of_encodesForm encodes names few

theorem not_hugeCoordinate_textFields (fields : List (String × String)) (key : String) :
    ¬ HugeCoordinate ((textFields fields).get key) := by
  have simple : (textFields fields).get key = .null ∨
      ∃ s, (textFields fields).get key = .text s := by
    induction fields with
    | nil => exact .inl rfl
    | cons field more induction =>
        by_cases here : key == field.1
        · exact .inr ⟨field.2, by simp [textFields, Fields.get, Fields.find?, List.lookup, here]⟩
        · have later : (textFields (field :: more)).get key = (textFields more).get key := by
            simp [textFields, Fields.get, Fields.find?, List.lookup, here]
          rw [later]
          exact induction
  rintro ⟨a, b, rest, list, -⟩
  rw [list] at simple
  rcases simple with same | ⟨s, same⟩ <;> cases same

theorem run_answer_of_carries (post : IsPost message) (carries : Carries fields message)
    (names : (fields.map Prod.fst).Nodup) (server : Server) :
    (Server.answer message).run server =
      (Server.answerFields (textFields fields)).run server := by
  rw [run_answer_of_post post.posted post.aimed, Server.run_answerTrip,
    payload_of_carries post carries names]

/-- Two posts that carry the same fields, each in any of the three ways, are answered alike by a
server: with the same status and document, or with the same fault, and the server is the same
afterwards, with what it has asked of the map service.  If the map service is known the answer has a
document. -/
theorem answer_of_carries {other : Message} (names : (fields.map Prod.fst).Nodup)
    (post : IsPost message) (carries : Carries fields message) (postOther : IsPost other)
    (carriesOther : Carries fields other) (server : Server) :
    message.payload = .ok (.object (textFields fields)) ∧
      (Server.answer message).run server = (Server.answer other).run server ∧
      ∀ provider, Map.Provider.ofName server.settings.provider = .ok provider →
        ∃ answer, ((Server.answer message).run server).1 = .ok answer ∧ IsDocument answer := by
  refine ⟨payload_of_carries post carries names, ?_, fun provider known => ?_⟩
  · rw [run_answer_of_carries post carries names,
      run_answer_of_carries postOther carriesOther names]
  · rw [run_answer_of_carries post carries names]
    exact isDocument_of_small known fun key _ => not_hugeCoordinate_textFields fields key

/-- A blank, an accent and an ampersand, sent in the three ways. -/
theorem answer_of_carries_accent :
    let fields := [("a b", "é&")]
    let server := Server.start {} .empty []
    let document : Message := ⟨"POST", Server.tripPath, "", "application/json",
      toBytes "\x7b\"a b\": \"\\u00e9&\"\x7d"⟩
    let form : Message := ⟨"POST", Server.tripPath, "", "application/x-www-form-urlencoded",
      toBytes "a+b=%C3%A9%26"⟩
    let address : Message := ⟨"POST", Server.tripPath, "a+b=%C3%A9%26", "application/json", []⟩
    Carries fields document ∧ Carries fields form ∧ Carries fields address ∧
      document.payload = .ok (.object [("a b", .text "é&")]) ∧
      (Server.answer document).run server = (Server.answer form).run server ∧
      (Server.answer document).run server = (Server.answer address).run server := by
  intro fields server document form address
  have name : Json.Writes ['a', ' ', 'b'] ['a', ' ', 'b'] :=
    .plain (by decide) (by decide) (by decide) <| .plain (by decide) (by decide) (by decide) <|
      .plain (by decide) (by decide) (by decide) .nil
  have accent : Json.WritesUnits (Json.unitsOf 'é') ['\\', 'u', '0', '0', 'e', '9'] :=
    .cons rfl .nil
  have value : Json.Writes ['é', '&'] (['\\', 'u', '0', '0', 'e', '9'] ++ ['&']) :=
    .units accent <| .plain (by decide) (by decide) (by decide) .nil
  have none : Json.AreBlanks [] := List.forall_mem_nil _
  have blank : Json.AreBlanks [' '] := List.forall_mem_singleton.mpr rfl
  have nameQuoted : Json.IsQuoted "a b" _ := ⟨_, name, rfl⟩
  have valueQuoted : Json.IsQuoted "é&" _ := ⟨_, value, rfl⟩
  have member : Json.WritesMember ("a b", "é&") _ := .mk nameQuoted none blank valueQuoted
  have writes : WritesObject fields "\x7b\"a b\": \"\\u00e9&\"\x7d".toList :=
    .filled none none member .nil none none
  have encodes : EncodesForm fields "a+b=%C3%A9%26".toList := by
    have plain : IsPlain 'a' ∧ IsPlain 'b' :=
      ⟨⟨⟨by decide, by decide⟩, by decide, by decide⟩,
        ⟨⟨by decide, by decide⟩, by decide, by decide⟩⟩
    have name : Encodes ['a', ' ', 'b'] ['a', '+', 'b'] :=
      .plain plain.1 <| .blank <| .plain plain.2 .nil
    have accent : EncodesBytes (String.utf8EncodeChar 'é') ['%', 'C', '3', '%', 'A', '9'] :=
      .cons rfl (.cons rfl .nil)
    have ampersand : EncodesBytes (String.utf8EncodeChar '&') ['%', '2', '6'] := .cons rfl .nil
    have value := Encodes.bytes accent (.bytes ampersand .nil)
    exact ⟨[_], .cons ⟨_, _, name, value, rfl⟩ .nil, rfl⟩
  have carriesDocument : Carries fields document := .document rfl writes rfl (by decide +kernel)
  have carriesForm : Carries fields form :=
    .form rfl encodes rfl (by decide +kernel) (by decide) (fun _ => rfl)
  have carriesAddress : Carries fields address := .address rfl rfl encodes rfl (by decide)
  have names : (fields.map Prod.fst).Nodup := List.nodup_singleton _
  obtain ⟨payload, sameForm, -⟩ := answer_of_carries names (isPost_trip _ _ _) carriesDocument
    (isPost_trip _ _ _) carriesForm server
  obtain ⟨-, sameAddress, -⟩ := answer_of_carries names (isPost_trip _ _ _) carriesDocument
    (isPost_trip _ _ _) carriesAddress server
  exact ⟨carriesDocument, carriesForm, carriesAddress, payload, sameForm, sameAddress⟩

end JourneyCost.Service
