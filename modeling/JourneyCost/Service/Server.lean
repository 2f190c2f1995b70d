import JourneyCost.Service.Payload
import JourneyCost.Trip.Planner

/-!
# The service

The service answers requests for estimates and reports on its health.  Its planner is made when
the first valid request comes in, with the settings then in force, and kept from then on.
-/

namespace JourneyCost.Service

open Data Net Trip

/-- The state of the service. -/
structure Server where
  /-- The settings in force. -/
  settings : Settings
  /-- All files. -/
  files : Files
  /-- The wire and the data sets that were read. -/
  desk : Desk
  /-- The planner, once there is one. -/
  planner : Option Planner

/-- An answer of the service. -/
structure Answer where
  /-- The status. -/
  status : Nat
  /-- The document in the body; otherwise the body is a page. -/
  document : Option Json
  /-- The methods that are allowed, if the one of the request is not. -/
  allow : Option String := none

/-- An answer with a page. -/
def Answer.page (status : Nat) : Answer := ⟨status, none, none⟩

/-- An answer with a document. -/
def Answer.json (status : Nat) (document : Json) : Answer := ⟨status, some document, none⟩

/-- An answer to a request with a method that is not allowed. -/
def Answer.notAllowed (allow : String) : Answer := ⟨405, none, some allow⟩

/-- The members of an error. -/
def errorFields (code message : String) : Fields :=
  [("code", .text code), ("message", .text message)]

/-- An answer with an error. -/
def Answer.error (status : Nat) (fields : Fields) : Answer :=
  .json status (.object [("error", .object fields)])

/-- A flaw of a request in an answer. -/
def flawDetail (flaw : Flaw) : Json :=
  .object [("type", .text flaw.defect.code), ("loc", .list (flaw.place.map .text)),
    ("msg", .text flaw.defect.message), ("input", flaw.input)]

/-- The answer to a request with flaws. -/
def flawedAnswer (flaws : List Flaw) : Answer :=
  .error 400 (errorFields "validation_error" "Invalid request payload" ++
    [("details", .list (flaws.map flawDetail))])

/-- The answer to a request whose estimate failed. -/
def faultAnswer (fault : Fault) : Answer :=
  match fault with
  | .invalidInput _ | .invalidMileage => .error 400 (errorFields "invalid_input" fault.message)
  | .geocodeFailed => .error 400 (errorFields "geocode_failed" fault.message)
  | .routeUnavailable _ reason =>
    .error 400 (errorFields "no_route" "Failed to compute route" ++ [("reason", .text reason)])
  | .providerFailed message status reason =>
    .error 502 (errorFields "upstream_error" message ++ [("reason", .text reason)] ++
      status.toList.map fun code => ("upstream_status", .int code))
  | _ => .error 500 (errorFields "internal_error" Fault.estimateFailed.message)

namespace Server

/-- A server that has done nothing yet. -/
def start (settings : Settings) (files : Files) (replies : List Reply) : Server :=
  ⟨settings, files, ⟨Wire.start replies (0 < settings.placeRetention), Library.empty⟩, none⟩

/-- The server under other settings. -/
def configure (server : Server) (settings : Settings) : Server :=
  let wire := { server.desk.wire with keeps := 0 < settings.placeRetention }
  { server with settings := settings, desk := { server.desk with wire := wire } }

/-- The data sets under the settings in force. -/
def sources (server : Server) : Sources :=
  ⟨server.files, server.settings.tollPath, server.settings.fuelPath⟩

/-- Work on the desk. -/
def onDesk {α : Type} (work : Work Desk α) : Work Server α :=
  Work.onPart desk (fun server desk => { server with desk := desk }) work

/-- The planner, which is made if there is none. -/
def obtainPlanner : Work Server Planner := do
  let server ← Work.look
  match server.planner with
  | some planner => return planner
  | none =>
    let planner ← Work.ofExcept (Planner.create server.settings)
    Work.change fun server => { server with planner := some planner }
    return planner

/-- The answer to a valid request. -/
def answerRequest (request : Request) : Work Server Answer := do
  let planner ← obtainPlanner
  let sources := (← Work.look).sources
  tryCatch
    (do return Answer.json 200 (← onDesk (planner.estimate sources request)).report)
    fun fault => return faultAnswer fault

/-- The answer to an object. -/
def answerFields (fields : Fields) : Work Server Answer := do
  match ← Work.ofExcept (Request.read (.object fields)) with
  | .fine request => answerRequest request
  | .flawed flaws => return flawedAnswer flaws

/-- The answer to a request for an estimate. -/
def answerTrip (message : Message) : Work Server Answer := do
  match ← Work.ofExcept message.payload with
  | .object fields => answerFields fields
  | .noDocument => return .error 400 (errorFields "invalid_json" "Request body must be valid JSON")
  | .noObject => return .error 400 (errorFields "invalid_json" "JSON body must be an object")
  | .refused => return .page 400

/-- The report on the health of the service. -/
def answerHealth : Work Server Answer := do
  let server ← Work.look
  let plazas ← onDesk (Desk.onLibrary
    (Library.loadPlazas server.files server.settings.tollPath))
  let prices ← onDesk (Desk.onLibrary
    (Library.loadPrices server.files server.settings.fuelPath server.settings.fuelKind))
  return .json 200 (.object [("status", .text "ok"),
    ("provider", .text server.settings.provider),
    ("datasets", .object [("toll_plazas", .int plazas.length),
      ("fuel_prices", .int prices.length)])])

/-- The path of the health report. -/
def healthPath : String := "/api/v1/health"

/-- The path of estimates. -/
def tripPath : String := "/api/v1/trip-expense"

/-- The answer to a request on a path. -/
def answerPath (message : Message) (path : String) : Work Server Answer :=
  if path == healthPath then
    if message.method == "GET" then answerHealth else pure (.notAllowed "GET")
  else if path == tripPath then
    if message.method == "POST" then answerTrip message else pure (.notAllowed "POST")
  else pure (.page 404)

/-- The answer to a request, whose content type is looked at first. -/
def answer (message : Message) : Work Server Answer := do
  let _ ← Work.ofExcept message.content
  answerPath message (percentDecode message.path.toList)

end Server

end JourneyCost.Service
