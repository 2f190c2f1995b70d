import JourneyCost.Charset.Basic
import JourneyCost.Json.Token
import JourneyCost.Text.Encoding
import JourneyCost.Text.Split

/-!
# Forms

A form is a sequence of names and values with ampersands between them, of which the last value of a
name counts.  The form in an address is read in the character set that the request declares: the
address as bytes, and the bytes that percent signs stand for.
-/

namespace JourneyCost.Service

/-- The byte with two hexadecimal digits. -/
def byteOfHex? (high low : Char) : Option UInt8 := do
  return UInt8.ofNat (16 * (← Json.hexDigit? high) + (← Json.hexDigit? low))

/-- The bytes of a text in which a percent sign may stand for one. -/
def percentBytes : List Char → Bytes
  | '%' :: high :: low :: rest =>
    match byteOfHex? high low with
    | some b => b :: percentBytes rest
    | none => 37 :: percentBytes (high :: low :: rest)
  | c :: rest => Text.toBytes c.toString ++ percentBytes rest
  | [] => []

/-- A text in runs of basic characters and runs of others. -/
def asciiRuns : List Char → List (List Char)
  | [] => []
  | c :: rest =>
    match asciiRuns rest with
    | (d :: run) :: more =>
      if (c.toNat < 128) == (d.toNat < 128) then (c :: d :: run) :: more
      else [c] :: (d :: run) :: more
    | more => [c] :: more

/-- A text with its percent signs decoded. -/
def percentDecode (cs : List Char) : String :=
  String.join ((asciiRuns cs).map fun run => Text.ofBytesLossy (percentBytes run))

/-- A text with blanks in place of plus signs and percent signs decoded. -/
def formDecode (cs : List Char) : String :=
  percentDecode (cs.map fun c => if c == '+' then ' ' else c)

/-- The name and the value of a field. -/
def formField (cs : List Char) : String × String :=
  let (name, value) := Text.cutChars '=' cs
  (formDecode name, formDecode (value.getD []))

/-- The parts of a form that are fields. -/
def formParts (s : String) : List (List Char) :=
  (Text.splitChars '&' s.toList).filter fun part => !part.isEmpty

/-- The fields of a form. -/
def formFields (s : String) : List (String × String) := (formParts s).map formField

/-- Most fields that a form may have. -/
def fieldLimit : Nat := 1000

/-- Whether a form has too many fields. -/
def hasTooManyFields (s : String) : Bool :=
  fieldLimit < (Text.splitChars '&' s.toList).length

/-- The text with a character for each byte. -/
def byteText (bytes : Bytes) : String := String.ofList (bytes.map fun b => Char.ofNat b.toNat)

/-- The text of a form in bytes: as UTF-8, or else with a character for each byte. -/
def formText (bytes : Bytes) : String := (Text.ofBytes? bytes).getD (byteText bytes)

/-- The fields as an object of texts. -/
def fieldObject (fields : List (String × String)) : Fields :=
  fields.foldl (fun object field => object.put field.1 (.text field.2)) []

/-- The object that a form amounts to, if it has not too many fields. -/
def formObject? (s : String) : Option Fields :=
  if hasTooManyFields s then none else some (fieldObject (formFields s))

/-- The character set of forms that declare none. -/
def usualCharset : Charset := .lossy "utf_8" [] (Text.charsFrom false .none)

/-- The text of a run of basic characters, or of others. -/
def decodeRun (set : Charset) (run : List Char) : Except Fault String :=
  if run.all (·.toNat < 128) then set.read (percentBytes run) else .ok (String.ofList run)

/-- A text with its percent signs decoded in a set; a text without any stays as it is. -/
def percentDecodeIn (set : Charset) (cs : List Char) : Except Fault String :=
  if cs.contains '%' then ((asciiRuns cs).mapM (decodeRun set)).map String.join
  else .ok (String.ofList cs)

/-- A text with blanks in place of plus signs and percent signs decoded in a set. -/
def formDecodeIn (set : Charset) (cs : List Char) : Except Fault String :=
  percentDecodeIn set (cs.map fun c => if c == '+' then ' ' else c)

/-- The name and the value of a field in a set. -/
def formFieldIn (set : Charset) (cs : List Char) : Except Fault (String × String) := do
  let (name, value) := Text.cutChars '=' cs
  return (← formDecodeIn set name, ← formDecodeIn set (value.getD []))

/-- The form in an address as a text: in a set, or with a character for each byte if the bytes make
no sense there. -/
def queryText (set : Charset) (query : String) : Except Fault String :=
  match set.readExact (Text.toBytes query) with
  | .error .malformedText => .ok (byteText (Text.toBytes query))
  | outcome => outcome

/-- The fields of the form in an address.  A field that cannot be read counts like too many of
them. -/
def queryFields (set : Charset) (query : String) : Except Fault (List (String × String)) := do
  let text ← queryText set query
  if hasTooManyFields text then throw .tooManyFields
  match (formParts text).mapM (formFieldIn set) with
  | .ok fields => return fields
  | .error _ => throw .tooManyFields

end JourneyCost.Service
