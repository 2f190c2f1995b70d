import JourneyCost.Proofs.Service.Running
import JourneyCost.Proofs.Trip.Repeating

/-!
# Requests that do not depend on earlier ones

A server that has answered requests of any kind differs from a fresh one in its planner, in the data
sets it has read and in the places it has found.  The first two make no difference as long as
settings and files stay as they are; places make none to a journey between two positions.
-/

namespace JourneyCost.Service.Server

open Data Net Trip
open Work (Respects)

/-- A server under given settings, on given files. -/
structure Steady (settings : Settings) (files : Files) (server : Server) : Prop where
  /-- The settings are in force. -/
  configured : server.settings = settings
  /-- The files are all files. -/
  stored : server.files = files
  /-- The planner is the one for these settings. -/
  planned : server.plannerInForce = Planner.create settings
  /-- The library holds what the files hold. -/
  faithful : server.desk.library.Faithful (· = files)

/-- Two servers under the same settings, on the same files and with twin wires. -/
structure Twin (settings : Settings) (files : Files) (shared : Prop) (before other : List Call)
    (left right : Server) : Prop where
  /-- One server is steady. -/
  first : Steady settings files left
  /-- So is the other. -/
  second : Steady settings files right
  /-- The wires are twins. -/
  wires : Wire.Twin shared (0 < settings.placeRetention) before other left.desk.wire
    right.desk.wire

variable {settings : Settings} {files : Files} {shared : Prop} {before other : List Call}
  {left right server : Server} {message : Message}

theorem Twin.desks (twin : Twin settings files shared before other left right) :
    Desk.Twin files shared (0 < settings.placeRetention) before other left.desk right.desk :=
  ⟨twin.wires, twin.first.faithful, twin.second.faithful⟩

theorem Steady.sources (steady : Steady settings files server) :
    server.sources = ⟨files, settings.tollPath, settings.fuelPath⟩ := by
  rw [Server.sources, steady.stored, steady.configured]

theorem Steady.afterEstimate (steady : Steady settings files server) {planner : Planner}
    {request : Request} (made : Planner.create settings = .ok planner)
    (faithful : ((planner.estimate server.sources request).run server.desk).2.library.Faithful
      (· = files)) :
    Steady settings files (server.afterEstimate planner request) where
  configured := by rw [settings_afterEstimate, steady.configured]
  stored := by rw [files_afterEstimate, steady.stored]
  planned := by rw [plannerInForce_afterEstimate, made]
  faithful := by rwa [desk_afterEstimate]

theorem respects_onDesk {α : Type} {work : Work Desk α}
    (respects : Respects (Desk.Twin files shared (0 < settings.placeRetention) before other) work) :
    Respects (Twin settings files shared before other) (onDesk work) := by
  refine respects.onPart (fun _ _ twin => twin.desks) ?_
  intro s t p q twin desks
  exact ⟨⟨twin.first.configured, twin.first.stored, twin.first.planned, desks.first⟩,
    ⟨twin.second.configured, twin.second.stored, twin.second.planned, desks.second⟩, desks.wires⟩

theorem respects_answerRequest {request : Request}
    (settled : shared ∨ request.usesCoordinates = true) :
    Respects (Twin settings files shared before other) (answerRequest request) := by
  intro left right twin
  rw [run_answerRequest, run_answerRequest, twin.first.planned, twin.second.planned]
  cases made : Planner.create settings with
  | error fault => exact ⟨rfl, twin⟩
  | ok planner =>
      obtain ⟨same, desks⟩ := respects_estimate ⟨files, settings.tollPath, settings.fuelPath⟩
        planner settled left.desk right.desk twin.desks
      have steady : Steady settings files (left.afterEstimate planner request) :=
        twin.first.afterEstimate made (by rw [twin.first.sources]; exact desks.first)
      have steadyToo : Steady settings files (right.afterEstimate planner request) :=
        twin.second.afterEstimate made (by rw [twin.second.sources]; exact desks.second)
      refine ⟨?_, steady, steadyToo, ?_⟩
      · simp only [twin.first.sources, twin.second.sources, same]
      · rw [desk_afterEstimate, desk_afterEstimate, twin.first.sources, twin.second.sources]
        exact desks.wires

/-- A request is valid and gives both ends as positions. -/
def GivesCoordinates (message : Message) : Prop :=
  ∃ fields request, message.payload = .ok (.object fields) ∧
    Request.read (.object fields) = .ok (.fine request) ∧ request.usesCoordinates = true

/-- The test for such a request. -/
def givesCoordinates (message : Message) : Bool :=
  match message.payload with
  | .ok (.object fields) =>
    match Request.read (.object fields) with
    | .ok (.fine request) => request.usesCoordinates
    | _ => false
  | _ => false

theorem givesCoordinates_iff : givesCoordinates message = true ↔ GivesCoordinates message := by
  constructor
  · intro given
    unfold givesCoordinates at given
    split at given
    · rename_i fields isObject
      split at given
      · rename_i request fine
        exact ⟨fields, request, isObject, fine, given⟩
      · cases given
    · cases given
  · rintro ⟨fields, request, isObject, fine, given⟩
    simp only [givesCoordinates, isObject, fine, given]

instance : DecidablePred GivesCoordinates := fun _ => decidable_of_iff _ givesCoordinates_iff

theorem respects_answerFields {fields : Fields}
    (settled : shared ∨ ∀ request, Request.read (.object fields) = .ok (.fine request) →
      request.usesCoordinates = true) :
    Respects (Twin settings files shared before other) (answerFields fields) := by
  refine Work.respects_ofExcept_bind fun checked read => ?_
  cases checked with
  | flawed flaws => exact Work.respects_pure _
  | fine request =>
      exact respects_answerRequest (settled.imp_right fun coordinates => coordinates request read)

theorem respects_answerTrip (settled : shared ∨ GivesCoordinates message) :
    Respects (Twin settings files shared before other) (answerTrip message) := by
  refine Work.respects_ofExcept_bind fun payload given => ?_
  cases payload with
  | object fields =>
      refine respects_answerFields (settled.imp_right ?_)
      rintro ⟨own, request, isObject, fine, coordinates⟩ valid read
      obtain rfl := Payload.object.inj (Except.ok.inj (given.symm.trans isObject))
      obtain rfl := Checked.fine.inj (Except.ok.inj (read.symm.trans fine))
      exact coordinates
  | noDocument | noObject | refused => exact Work.respects_pure _

/-- The health report under given settings. -/
def healthUnder (settings : Settings) (files : Files) : Work Server Answer := do
  let plazas ← onDesk (Desk.onLibrary (Library.loadPlazas files settings.tollPath))
  let prices ← onDesk (Desk.onLibrary
    (Library.loadPrices files settings.fuelPath settings.fuelKind))
  return .json 200 (.object [("status", .text "ok"), ("provider", .text settings.provider),
    ("datasets", .object [("toll_plazas", .int plazas.length),
      ("fuel_prices", .int prices.length)])])

theorem answerHealth_eq :
    answerHealth = Work.look >>= fun server => healthUnder server.settings server.files := rfl

theorem respects_answerHealth :
    Respects (Twin settings files shared before other) answerHealth := by
  have respects : Respects (Twin settings files shared before other)
      (healthUnder settings files) :=
    (respects_onDesk (respects_plazas settings.tollPath)).bind fun plazas =>
      (respects_onDesk (respects_prices settings.fuelPath settings.fuelKind)).bind fun prices =>
        Work.respects_pure _
  rw [answerHealth_eq]
  refine Work.respects_look_bind (fun left right twin => ⟨?_, ?_⟩) respects
  · rw [twin.first.configured, twin.first.stored]
  · rw [twin.second.configured, twin.second.stored]

theorem respects_answer (settled : shared ∨ GivesCoordinates message) :
    Respects (Twin settings files shared before other) (answer message) := by
  refine Work.respects_ofExcept_bind fun content _ => ?_
  unfold answerPath
  split
  · split
    · exact respects_answerHealth
    · exact Work.respects_pure _
  · split
    · split
      · exact respects_answerTrip settled
      · exact Work.respects_pure _
    · exact Work.respects_pure _

/-- The server after it has answered requests. -/
def after (server : Server) (history : List Message) : Server :=
  history.foldl (fun server message => ((answer message).run server).2) server

/-- The server without the places found. -/
def forgetPlaces (server : Server) : Server :=
  { server with desk := { server.desk with wire := server.desk.wire.forget } }

theorem Steady.twin (steady : Steady settings files server)
    (keeps : server.desk.wire.keeps = (0 < settings.placeRetention : Bool)) :
    Twin settings files shared server.desk.wire.sent server.desk.wire.sent server server :=
  ⟨steady, steady, keeps ▸ Wire.Twin.refl server.desk.wire⟩

theorem steady_start (settings : Settings) (files : Files) (replies : List Reply) :
    Steady settings files (start settings files replies) where
  configured := rfl
  stored := rfl
  planned := rfl
  faithful := Library.faithful_empty _

/-- A server that has answered requests is a twin of itself, and so it is steady. -/
theorem twin_after (settings : Settings) (files : Files) (replies : List Reply)
    (history : List Message) :
    Twin settings files True [] [] ((start settings files replies).after history)
      ((start settings files replies).after history) := by
  suffices preserved : ∀ server, Twin settings files True [] [] server server →
      Twin settings files True [] [] (server.after history) (server.after history) from
    preserved _ ((steady_start settings files replies).twin rfl)
  induction history with
  | nil => exact fun server twin => twin
  | cons message rest induction =>
      intro server twin
      exact induction _ (respects_answer (.inl trivial) server server twin).2

theorem Steady.forgetPlaces (steady : Steady settings files server) :
    Steady settings files server.forgetPlaces :=
  ⟨steady.configured, steady.stored, steady.planned, steady.faithful⟩

/-- Two servers give a request the same answer and send the same calls for it. -/
def SameAnswer (message : Message) (left right : Server) : Prop :=
  ((answer message).run left).1 = ((answer message).run right).1 ∧
    ∃ calls, ((answer message).run left).2.desk.wire.sent = left.desk.wire.sent ++ calls ∧
      ((answer message).run right).2.desk.wire.sent = right.desk.wire.sent ++ calls

theorem sameAnswer_of_twin (settled : shared ∨ GivesCoordinates message)
    (twin : Twin settings files shared left.desk.wire.sent right.desk.wire.sent left right) :
    SameAnswer message left right := by
  obtain ⟨same, after⟩ := respects_answer settled left right twin
  exact ⟨same, after.wires.sent⟩

/-- A request that gives both ends as positions is answered as by a fresh server for which the same
replies are to come.  So is any other, once the places that were found are forgotten. -/
theorem answer_after (settings : Settings) (files : Files) (replies : List Reply)
    (history : List Message) (message : Message) :
    let server := (start settings files replies).after history
    let fresh := start settings files server.desk.wire.replies
    (GivesCoordinates message → SameAnswer message server fresh) ∧
      SameAnswer message server.forgetPlaces fresh.forgetPlaces := by
  intro server fresh
  have steady := (twin_after settings files replies history).first
  have keeps := (twin_after settings files replies history).wires.first
  have steadyFresh := steady_start settings files server.desk.wire.replies
  constructor
  · intro coordinates
    have wires : Wire.Twin False (0 < settings.placeRetention) server.desk.wire.sent
        fresh.desk.wire.sent server.desk.wire fresh.desk.wire :=
      ⟨rfl, keeps, rfl, False.elim, [], by simp, by simp⟩
    exact sameAnswer_of_twin (.inr coordinates) ⟨steady, steadyFresh, wires⟩
  · have wires : Wire.Twin True (0 < settings.placeRetention) server.desk.wire.sent
        fresh.desk.wire.sent server.desk.wire.forget fresh.desk.wire.forget :=
      ⟨rfl, keeps, rfl, fun _ => rfl, [], by simp [Wire.forget], by simp [Wire.forget]⟩
    exact sameAnswer_of_twin (.inl trivial) ⟨steady.forgetPlaces, steadyFresh.forgetPlaces, wires⟩

/-- A journey between two positions, after one between two places that were found and kept. -/
theorem answer_after_named :
    let place : String :=
      "\x7b\"features\":[\x7b\"geometry\":\x7b\"coordinates\":[78.0,27.5]\x7d\x7d]\x7d"
    let post : String → Message := fun text =>
      ⟨"POST", tripPath, "", "application/json", Text.toBytes text⟩
    let named := post ("\x7b\"start\":\"Agra\",\"destination\":\"Delhi\",\"vehicle_type\":" ++
      "\"car\",\"mileage\":15,\"kilometers_per_day\":400\x7d")
    let placed := post ("\x7b\"start_coord\":[28.6,77.2],\"dest_coord\":[26.9,75.8]," ++
      "\"vehicle_type\":\"car\",\"mileage\":15,\"kilometers_per_day\":400\x7d")
    let replies : List Reply :=
      [.answer 200 (Text.toBytes place), .answer 200 (Text.toBytes place), .dropped "ReadTimeout"]
    let server := (start {} .empty replies).after [named]
    server.desk.wire.places.length = 2 ∧ GivesCoordinates placed ∧
      SameAnswer placed server (start {} .empty server.desk.wire.replies) := by
  intro place post named placed replies server
  have found : server.desk.wire.places.length = 2 := by decide +kernel
  have coordinates : GivesCoordinates placed := by decide +kernel
  exact ⟨found, coordinates, (answer_after {} .empty replies [named] placed).1 coordinates⟩

end Server

end JourneyCost.Service
