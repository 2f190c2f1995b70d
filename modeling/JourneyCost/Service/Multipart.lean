import JourneyCost.Service.Form
import JourneyCost.Service.Header
import JourneyCost.Text.Base64
import JourneyCost.Text.Printable

/-!
# Forms in parts

A form may come as a sequence of parts with a boundary between them.  Each part has headers, an
empty line and a value; the header that names the field is the content disposition.  Parts that
are files, and parts without a name, are passed over.
-/

namespace JourneyCost.Service

/-- Whether a sequence begins with another one, and what follows it. -/
def afterStart? : Bytes → Bytes → Option Bytes
  | [], rest => some rest
  | a :: start, b :: rest => if a == b then afterStart? start rest else none
  | _ :: _, [] => none

/-- The bytes before the first occurrence of a mark, and those after it. -/
def cutBytes (mark : Bytes) : Bytes → Bytes × Option Bytes
  | [] => ([], if mark.isEmpty then some [] else none)
  | b :: rest =>
    match afterStart? mark (b :: rest) with
    | some after => ([], some after)
    | none =>
      let (before, after) := cutBytes mark rest
      (b :: before, after)

/-- The parts between occurrences of a mark, at most as many as the fuel allows. -/
def splitBytes (mark : Bytes) : Nat → Bytes → List Bytes
  | 0, bytes => [bytes]
  | fuel + 1, bytes =>
    match cutBytes mark bytes with
    | (before, some after) => before :: splitBytes mark fuel after
    | (before, none) => [before]

/-- A sequence without one line end at its end. -/
def dropLineEnd (bytes : Bytes) : Bytes :=
  match bytes.reverse with
  | 10 :: 13 :: rest => rest.reverse
  | 10 :: rest => rest.reverse
  | 13 :: rest => rest.reverse
  | _ => bytes

/-- All parts but the last without the line end before the boundary; an empty last one is none. -/
def trimParts : List Bytes → List Bytes
  | [] => []
  | [last] => if last.isEmpty then [] else [last]
  | part :: more => dropLineEnd part :: trimParts more

/-- A header of a part: its name and its value.  A header that is malformed is passed over. -/
def partHeader? (line : Bytes) : Except Fault (Option (String × HeaderValue)) :=
  match (Text.ofBytes? line).map fun text => Text.cutChars ':' text.toList with
  | some (name, some rest) =>
    let name := ((Text.lower (String.ofList name)).toList.reverse.dropWhile (· == ' ')).reverse
    let value := HeaderValue.ofText (String.ofList (rest.dropWhile (· == ' ')))
    recoverWhen Fault.isMalformed none (value.map fun value => some (String.ofList name, value))
  | _ => .ok none

/-- Longest head of a part, with the empty line after it. -/
def partHeadLimit : Nat := 1024

/-- A part of a form. -/
inductive Part where
  /-- A part that names no field. -/
  | plain
  /-- The value of a field, with the headers, the last one first. -/
  | field (headers : List (String × HeaderValue)) (value : Bytes)
  /-- A file in a field. -/
  | file (headers : List (String × HeaderValue)) (value : Bytes)
  /-- A part whose head is too long. -/
  | refused

/-- What a field is called in the headers of a part. -/
def dispositionName : String := "content-disposition"

/-- The part in a sequence of bytes. -/
def Part.ofBytes (bytes : Bytes) : Except Fault Part := do
  match cutBytes [13, 10, 13, 10] (bytes.take partHeadLimit) with
  | (_, none) => return if bytes.length < partHeadLimit then .plain else .refused
  | (head, some _) =>
    let headers ← (splitBytes [13, 10] head.length head).mapM partHeader?
    let headers := (headers.filterMap id).reverse
    let value := bytes.drop (head.length + 4)
    match headers.lookup dispositionName with
    | none => return .plain
    | some disposition =>
      if (disposition.param? "filename").any (· != "") then return .file headers value
      else return .field headers value

/-- White space of the basic characters. -/
def isBasicSpace (b : UInt8) : Bool := b == 32 || (9 ≤ b && b ≤ 13)

/-- The name of the field of a part in a character set. -/
def fieldName? (charset : Charset) (headers : List (String × HeaderValue)) :
    Except Fault (Option String) :=
  match (headers.lookup dispositionName).bind (·.param? "name") with
  | none => .ok none
  | some name =>
    let bytes := (Text.toBytes name).dropWhile isBasicSpace
    (charset.read (bytes.reverse.dropWhile isBasicSpace).reverse).map some

/-- Whether the value of a part is written to base 64. -/
def isBase64 (headers : List (String × HeaderValue)) : Bool :=
  (headers.lookup "content-transfer-encoding").any (·.main == "base64")

/-- The last part of a file name, without characters that are not shown. -/
def plainFileName (name : String) : String :=
  let afterLast := fun (mark : Char) (cs : List Char) =>
    (cs.reverse.takeWhile (· != mark)).reverse
  String.ofList ((afterLast '\\' (afterLast '/' name.toList)).filter Text.isPrintable)

/-- Whether a file is kept, so that its value is looked at. -/
def isKept (charset : Charset) (headers : List (String × HeaderValue)) : Except Fault Bool := do
  let name := ((headers.lookup dispositionName).bind (·.param? "filename")).getD ""
  let plain := plainFileName (← charset.read (Text.toBytes name))
  return plain != "" && plain != "." && plain != ".."

/-- What was read of a form so far. -/
structure Tally where
  /-- Parts that are no files. -/
  parts : Nat
  /-- Files. -/
  files : Nat
  /-- Length of names and values. -/
  length : Nat

/-- Most fields that a form may have. -/
def partLimit : Nat := fieldLimit + 2

/-- Most files that a form may have. -/
def fileLimit : Nat := 100

/-- Greatest length of a body that is read at once, and of all fields of a form in parts. -/
def bodyLimit : Nat := 2621440

/-- The fields in parts; there are none if the form is refused. -/
def partFields (charset : Charset) (tally : Tally) :
    List Bytes → Except Fault (Option (List (String × String)))
  | [] => .ok (some [])
  | bytes :: more => do
    match ← Part.ofBytes bytes with
    | .refused => return none
    | .plain =>
      if partLimit ≤ tally.parts then return none
      partFields charset { tally with parts := tally.parts + 1 } more
    | .field headers value =>
      if partLimit ≤ tally.parts then return none
      let tally := { tally with parts := tally.parts + 1 }
      match ← fieldName? charset headers with
      | none => partFields charset tally more
      | some name =>
        let length := tally.length + value.length + name.length + 2
        if bodyLimit < length then return none
        let content := if isBase64 headers then Text.decodeBase64 value else value
        let content ← charset.read content
        let rest ← partFields charset { tally with length := length } more
        return rest.map ((name, content) :: ·)
    | .file headers value =>
      match ← fieldName? charset headers with
      | none => partFields charset tally more
      | some _ =>
        if fileLimit ≤ tally.files then return none
        let value := value.filter (!isBasicSpace ·)
        if (← isKept charset headers) && isBase64 headers && (Text.decodeBase64? value).isNone then
          return none
        partFields charset { tally with files := tally.files + 1 } more

/-- Whether a text can be a boundary: basic printable characters, at most 201, no blank last. -/
def isBoundary (s : String) : Bool :=
  let cs := s.toList
  !cs.isEmpty && cs.length ≤ 201 && cs.all (fun c => 32 ≤ c.toNat && c.toNat ≤ 126) &&
    cs.getLast? != some ' '

/-- The fields of a form in parts with a boundary; there are none if the form is refused. -/
def multipartFields (charset : Charset) (boundary : String) (body : Bytes) :
    Except Fault (Option (List (String × String))) :=
  let mark := Text.toBytes ("--" ++ boundary)
  partFields charset ⟨0, 0, 0⟩ (trimParts (splitBytes mark body.length body))

/-- The boundary in a declared content type, which must be that of a form in parts. -/
def boundary? (contentType : String) (header : HeaderValue) : Option String :=
  if !"multipart/".toList.isPrefixOf contentType.toList ||
      contentType.toList.any (128 ≤ ·.toNat) then none
  else (header.param? "boundary").filter isBoundary

end JourneyCost.Service
