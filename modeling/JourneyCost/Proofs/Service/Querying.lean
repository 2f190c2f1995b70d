import JourneyCost.Proofs.Fault
import JourneyCost.Proofs.Service.Encoded
import JourneyCost.Service.Payload

/-!
# Forms in an address

A form in an address that is read in the usual set gives the fields that the same form gives in a
body, unless there are too many of them.  It is read for its payload, and before that if a known set
is declared.
-/

namespace JourneyCost.Service

open Text (toBytes)

variable {cs run : List Char}

theorem flatten_asciiRuns (cs : List Char) : (asciiRuns cs).flatten = cs := by
  induction cs with
  | nil => rfl
  | cons c more induction =>
      rw [asciiRuns]
      split
      · rename_i d first runs same
        rw [same] at induction
        split <;> exact congrArg (c :: ·) induction
      · rw [List.flatten_cons, induction, List.singleton_append]

/-- A run is basic as a whole, or not at all. -/
theorem uniform_of_mem_asciiRuns (member : run ∈ asciiRuns cs) :
    ∀ c ∈ run, ∀ d ∈ run, c.toNat < 128 ↔ d.toNat < 128 := by
  induction cs generalizing run with
  | nil => cases member
  | cons c more induction =>
      rw [asciiRuns] at member
      split at member
      · rename_i d first runs same
        split at member
        · rename_i alike
          rw [same] at induction
          rcases List.mem_cons.mp member with rfl | later
          · have joins : c.toNat < 128 ↔ d.toNat < 128 := by simpa using alike
            have toFirst : ∀ e ∈ c :: d :: first, e.toNat < 128 ↔ d.toNat < 128 := by
              refine List.forall_mem_cons.mpr ⟨joins, fun e inside => ?_⟩
              exact induction List.mem_cons_self e inside d List.mem_cons_self
            exact fun e inE f inF => (toFirst e inE).trans (toFirst f inF).symm
          · exact induction (List.mem_cons_of_mem _ later)
        · rcases List.mem_cons.mp member with rfl | later
          · simp
          · exact induction (same ▸ later)
      · rcases List.mem_cons.mp member with rfl | later
        · simp
        · exact induction later

/-- Characters without a percent sign stand for their own bytes. -/
theorem ofBytesLossy_percentBytes (noSign : '%' ∉ cs) :
    Text.ofBytesLossy (percentBytes cs) = String.ofList cs := by
  have bytes : percentBytes cs = toBytes (String.ofList cs) := by
    rw [Text.toBytes_eq, String.toList_ofList]
    induction cs with
    | nil => rfl
    | cons c more induction =>
        obtain ⟨here, later⟩ := not_or.mp (mt List.mem_cons.mpr noSign)
        rw [percentBytes_cons (Ne.symm here), induction later, List.flatMap_cons]
  rw [bytes, Text.ofBytesLossy_toBytes]

theorem decodeRun_usualCharset (member : run ∈ asciiRuns cs) :
    decodeRun usualCharset run = .ok (Text.ofBytesLossy (percentBytes run)) := by
  unfold decodeRun
  split_ifs with basic
  · rfl
  · have noSign : '%' ∉ run := by
      intro sign
      refine basic (List.all_eq_true.mpr fun c inside => decide_eq_true ?_)
      exact (uniform_of_mem_asciiRuns member c inside _ sign).mpr (by decide)
    rw [ofBytesLossy_percentBytes noSign]

theorem join_map_ofList (runs : List (List Char)) :
    String.join (runs.map String.ofList) = String.ofList runs.flatten := by
  rw [← String.toList_inj, String.toList_join, String.toList_ofList, List.flatMap_map]
  simp [List.flatMap_def]

theorem percentDecode_of_noSign (noSign : '%' ∉ cs) : percentDecode cs = String.ofList cs := by
  have each : ∀ run ∈ asciiRuns cs,
      Text.ofBytesLossy (percentBytes run) = String.ofList run := by
    intro run member
    refine ofBytesLossy_percentBytes fun sign => noSign ?_
    rw [← flatten_asciiRuns cs]
    exact List.mem_flatten_of_mem member sign
  rw [percentDecode, List.map_congr_left each, join_map_ofList, flatten_asciiRuns]

theorem percentDecodeIn_usualCharset (cs : List Char) :
    percentDecodeIn usualCharset cs = .ok (percentDecode cs) := by
  unfold percentDecodeIn
  split_ifs with sign
  · have runs := mapM_eq_ok fun run (member : run ∈ asciiRuns cs) => decodeRun_usualCharset member
    rw [runs]
    rfl
  · rw [percentDecode_of_noSign (by simpa using sign)]

theorem formFieldIn_usualCharset (cs : List Char) :
    formFieldIn usualCharset cs = .ok (formField cs) := by
  simp only [formFieldIn, formDecodeIn, percentDecodeIn_usualCharset]
  rfl

theorem queryText_usualCharset (query : String) : queryText usualCharset query = .ok query := by
  have read : usualCharset.readExact (toBytes query) = .ok query := by
    simp only [usualCharset, Charset.lossy, Text.mapM_charsFrom_toBytes, String.ofList_toList]
  rw [queryText, read]

/-- In the usual set the form in an address has the fields of the same form in a body, unless it has
too many. -/
theorem queryFields_usualCharset (query : String) :
    queryFields usualCharset query =
      if hasTooManyFields query then .error .tooManyFields else .ok (formFields query) := by
  have fields : (formParts query).mapM (formFieldIn usualCharset) = .ok (formFields query) :=
    mapM_eq_ok fun part _ => formFieldIn_usualCharset part
  rw [queryFields, queryText_usualCharset, ok_bind, fields]
  split_ifs <;> rfl

/-- A content type is read, with its main part and without a known set. -/
theorem exists_ofText {text main : String}
    (parts : (ContentType.ofText text).toOption.map
      (fun contentType => (contentType.header.main, contentType.charset.isNone)) =
        some (main, true)) :
    ∃ contentType, ContentType.ofText text = .ok contentType ∧
      contentType.header.main = main ∧ contentType.charset = none := by
  obtain ⟨contentType, read, same⟩ := Option.map_eq_some_iff.mp parts
  obtain ⟨rfl, usual⟩ := Prod.mk.inj same
  exact ⟨contentType, toOption_eq_some_iff.mp read, rfl, Option.isNone_iff_eq_none.mp usual⟩

section

variable {message : Message} {contentType : ContentType} {set : Charset} {query : String}

theorem set_of_usual (usual : contentType.charset = none) : contentType.set = usualCharset := by
  rw [ContentType.set, usual, Option.getD_none]

theorem set_of_declared (declared : contentType.charset = some set) : contentType.set = set := by
  rw [ContentType.set, declared, Option.getD_some]

/-- Without a known set the form in the address is not looked at. -/
theorem content_of_usual (read : ContentType.ofText message.contentType = .ok contentType)
    (usual : contentType.charset = none) : message.content = .ok contentType := by
  rw [Message.content, read, ok_bind, usual]
  rfl

theorem content_of_declared (read : ContentType.ofText message.contentType = .ok contentType)
    (declared : contentType.charset = some set) :
    message.content = (queryFields set message.query).map fun _ => contentType := by
  rw [Message.content, read, ok_bind, declared]

theorem ofText_of_content (content : message.content = .ok contentType) :
    ContentType.ofText message.contentType = .ok contentType := by
  obtain ⟨read, ofText, -⟩ := bind_eq_ok.mp content
  cases charset : read.charset with
  | none =>
      rw [content_of_usual ofText charset] at content
      exact Except.ok.inj content ▸ ofText
  | some set =>
      rw [content_of_declared ofText charset] at content
      cases fields : queryFields set message.query with
      | error fault => simp [fields, Except.map] at content
      | ok params =>
          rw [fields] at content
          exact Except.ok.inj content ▸ ofText

theorem content_of_queryFields (read : ContentType.ofText message.contentType = .ok contentType)
    {params : List (String × String)}
    (given : queryFields contentType.set message.query = .ok params) :
    message.content = .ok contentType := by
  cases charset : contentType.charset with
  | none => exact content_of_usual read charset
  | some set =>
      rw [set_of_declared charset] at given
      rw [content_of_declared read charset, given]
      rfl

theorem content_of_queryFields_eq_error
    (read : ContentType.ofText message.contentType = .ok contentType)
    (declared : contentType.charset.isSome) {fault : Fault}
    (failed : queryFields contentType.set message.query = .error fault) :
    message.content = .error fault := by
  obtain ⟨set, charset⟩ := Option.isSome_iff_exists.mp declared
  rw [set_of_declared charset] at failed
  rw [content_of_declared read charset, failed]
  rfl

theorem queryPayload_of_crowded (crowded : hasTooManyFields query = true) :
    queryPayload usualCharset query = .error .tooManyFields := by
  rw [queryPayload, queryFields_usualCharset, if_pos crowded]
  rfl

theorem queryPayload_of_not_crowded (few : hasTooManyFields query = false) :
    queryPayload usualCharset query = .ok (.object (fieldObject (formFields query))) := by
  rw [queryPayload, queryFields_usualCharset, few]
  rfl

end

end JourneyCost.Service
