import JourneyCost.Json.Encoding
import JourneyCost.Service.Address
import JourneyCost.Service.Multipart

/-!
# Payloads

The payload of a request is an object.  It comes as a form or as a document in the body, or, if the
request declares no form and has no body, as a form in the address.
-/

namespace JourneyCost.Service

/-- A request as it reaches the service. -/
structure Message where
  /-- The method in capitals. -/
  method : String
  /-- The path, with percent signs. -/
  path : String
  /-- The form in the address. -/
  query : String
  /-- The declared content type. -/
  contentType : String
  /-- The body. -/
  body : Bytes

/-- A request to an address.  Who sends no body declares no content type. -/
def Message.ofAddress (method address contentType : String) (body : Bytes) :
    Except Fault Message := do
  let address ← Address.ofText address
  let declared := if body.isEmpty then "" else contentType
  return ⟨String.ofList (method.toList.map Char.toUpper), address.path, address.query, declared,
    body⟩

/-- What the declared content type of a request says. -/
structure ContentType where
  /-- The header. -/
  header : HeaderValue
  /-- The character set, if a known one is declared. -/
  charset : Option Charset

/-- The content type in a text. -/
def ContentType.ofText (s : String) : Except Fault ContentType := do
  let header ← HeaderValue.ofText s
  match header.param? "charset" with
  | none => return ⟨header, none⟩
  | some name =>
    if name.toList.contains '\x00' then throw .malformed
    return ⟨header, Charset.named? name⟩

/-- The character set for forms. -/
def ContentType.set (contentType : ContentType) : Charset := contentType.charset.getD usualCharset

/-- The content type of a request.  A known set that is declared is tried on the form in the address
at once. -/
def Message.content (message : Message) : Except Fault ContentType := do
  let contentType ← ContentType.ofText message.contentType
  match contentType.charset with
  | none => return contentType
  | some set => (queryFields set message.query).map fun _ => contentType

/-- What the payload of a request comes to. -/
inductive Payload where
  /-- An object. -/
  | object (fields : Fields)
  /-- A body that is no document. -/
  | noDocument
  /-- A document that is no object. -/
  | noObject
  /-- A body that is refused unread: too long, with too many fields, or without a boundary. -/
  | refused

/-- Whether a form declares a known encoding other than the one that forms have. -/
def ContentType.isForeign (contentType : ContentType) : Bool :=
  contentType.charset.isSome &&
    (contentType.header.param? "charset").any fun name =>
      name.toList.map Char.toLower != "utf-8".toList

/-- The payload in a form in the body. -/
def formPayload (contentType : ContentType) (body : Bytes) : Except Fault Payload :=
  if contentType.isForeign then .error .malformedForm
  else if bodyLimit < body.length then .ok .refused
  else .ok ((formObject? (formText body)).elim .refused .object)

/-- The payload in a form in parts. -/
def Message.multipartPayload (message : Message) (contentType : ContentType) :
    Except Fault Payload := do
  match boundary? message.contentType contentType.header with
  | none => return .refused
  | some boundary =>
    return (← multipartFields contentType.set boundary message.body).elim .refused
      fun fields => .object (fieldObject fields)

/-- The payload in a document. -/
def documentPayload (body : Bytes) : Except Fault Payload :=
  if bodyLimit < body.length then .ok .refused
  else
    match Json.readBytes body with
    | .ok (.object fields) => .ok (.object fields)
    | .ok _ => .ok .noObject
    | .error .malformedDocument => .ok .noDocument
    | .error fault => .error fault

/-- The payload in an address, read in a set. -/
def queryPayload (set : Charset) (query : String) : Except Fault Payload :=
  (queryFields set query).map fun fields => .object (fieldObject fields)

/-- The payload of a request.  Whether it is a form in the body is asked before whether there is a
body. -/
def Message.payload (message : Message) : Except Fault Payload := do
  let contentType ← message.content
  if contentType.header.main == "application/x-www-form-urlencoded" then
    formPayload contentType message.body
  else if contentType.header.main == "multipart/form-data" then
    message.multipartPayload contentType
  else if message.body.isEmpty then queryPayload contentType.set message.query
  else documentPayload message.body

end JourneyCost.Service
