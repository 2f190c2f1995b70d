import JourneyCost.Json.Value
import JourneyCost.Text.Encoding

/-!
# Calls to a map service

A call says what is asked of a map service and how; a reply is an answer with a status, or the
reason why there is none.
-/

namespace JourneyCost.Net

/-- What a call is for. -/
inductive Purpose where
  /-- Finding a place by its name. -/
  | geocode
  /-- Finding a route. -/
  | directions
  /-- Moving positions to the nearest road. -/
  | snap
  /-- Finding the place at a position. -/
  | reverse
deriving DecidableEq, Repr

/-- A header of a call. -/
inductive Header where
  /-- A fresh identifier for each call. -/
  | callId
  /-- The kind of answer that is accepted. -/
  | accept
  /-- The key of the caller. -/
  | authorization (key : String)
deriving DecidableEq, Repr

/-- How a call is sent. -/
inductive Method where
  /-- With its parameters in the address. -/
  | get
  /-- With a body. -/
  | post
deriving DecidableEq, Repr

/-- A call to a map service. -/
structure Call where
  /-- What the call is for. -/
  purpose : Purpose
  /-- How it is sent. -/
  method : Method
  /-- The address without parameters. -/
  url : String
  /-- Parameters of the address. -/
  params : Option Fields := none
  /-- The document in the body. -/
  body : Option Json := none
  /-- The headers. -/
  headers : Option (List Header) := none
  /-- The time limit. -/
  timeout : Json

/-- What comes of a call. -/
inductive Reply where
  /-- An answer. -/
  | answer (status : Int) (body : Bytes)
  /-- No answer, and the kind of failure. -/
  | dropped (kind : String)
  /-- The address cannot be called. -/
  | badAddress

end JourneyCost.Net
