import JourneyCost.Json.Value
import JourneyCost.Text.Blank

/-!
# Checks on the fields of a request

A check turns a document into a value or lists its flaws.  Checks of several fields are combined
so that the flaws of all of them are listed in the order of the fields.
-/

namespace JourneyCost.Trip

/-- What can be wrong with a field. -/
inductive Defect where
  /-- The field is not there. -/
  | missing
  /-- Not a text. -/
  | notText
  /-- A text that is too short. -/
  | tooShort (least : Nat)
  /-- A text that is too long. -/
  | tooLong (greatest : Nat)
  /-- Not a number. -/
  | notNumber
  /-- A text that cannot be read as a number. -/
  | unreadableNumber
  /-- An infinite number, or what is not a number. -/
  | notFinite
  /-- A number that is not above a bound. -/
  | notAbove (bound : Int)
  /-- A number below the least one. -/
  | below (least : Int)
  /-- A number above the greatest one. -/
  | above (greatest : Int)
  /-- A rule about the whole value is broken. -/
  | rule (message : String)
  /-- Not an object. -/
  | notObject
deriving DecidableEq, Repr

namespace Defect

/-- A short name. -/
def code : Defect → String
  | missing => "missing"
  | notText => "string_type"
  | tooShort _ => "string_too_short"
  | tooLong _ => "string_too_long"
  | notNumber => "float_type"
  | unreadableNumber => "float_parsing"
  | notFinite => "finite_number"
  | notAbove _ => "greater_than"
  | below _ => "greater_than_equal"
  | above _ => "less_than_equal"
  | rule _ => "value_error"
  | notObject => "model_type"

/-- A number of characters in words. -/
def characters (count : Nat) : String :=
  toString count ++ (if count == 1 then " character" else " characters")

/-- The wording. -/
def message : Defect → String
  | missing => "Field required"
  | notText => "Input should be a valid string"
  | tooShort least => "String should have at least " ++ characters least
  | tooLong greatest => "String should have at most " ++ characters greatest
  | notNumber => "Input should be a valid number"
  | unreadableNumber => "Input should be a valid number, unable to parse string as a number"
  | notFinite => "Input should be a finite number"
  | notAbove bound => "Input should be greater than " ++ toString bound
  | below least => "Input should be greater than or equal to " ++ toString least
  | above greatest => "Input should be less than or equal to " ++ toString greatest
  | rule text => "Value error, " ++ text
  | notObject => "Input should be a valid dictionary or instance of TripCostRequest"

end Defect

/-- A defect with the place where it is and the document found there. -/
structure Flaw where
  /-- What is wrong. -/
  defect : Defect
  /-- Names on the way to the field. -/
  place : List String
  /-- What was found. -/
  input : Json

/-- The outcome of a check. -/
inductive Checked (α : Type) where
  /-- Nothing is wrong. -/
  | fine (value : α)
  /-- The flaws, of which there is at least one. -/
  | flawed (flaws : List Flaw)

namespace Checked

variable {α β : Type}

/-- The flaws. -/
def flaws : Checked α → List Flaw
  | fine _ => []
  | flawed list => list

/-- The value after a change. -/
def map (f : α → β) : Checked α → Checked β
  | fine value => fine (f value)
  | flawed list => flawed list

/-- A function and its argument, with the flaws of both. -/
def apply : Checked (α → β) → Checked α → Checked β
  | fine f, fine value => fine (f value)
  | first, second => flawed (first.flaws ++ second.flaws)

/-- A further check on a value. -/
def andThen : Checked α → (α → Checked β) → Checked β
  | fine value, check => check value
  | flawed list, _ => flawed list

instance : Applicative Checked where
  pure := fine
  seq f x := apply f (x ())
  map := map

end Checked

/-- A check of a document at a place. -/
abbrev Check (α : Type) := List String → Json → Checked α

/-- The outcome of a defect. -/
def reject {α : Type} (defect : Defect) (place : List String) (input : Json) : Checked α :=
  .flawed [⟨defect, place, input⟩]

/-- A text with bounds on its length, which is counted without blanks at either end. -/
def checkText (least greatest : Nat) : Check String := fun place input =>
  match input with
  | .text s =>
    let trimmed := Text.trimBlanks s
    if trimmed.length < least then reject (.tooShort least) place input
    else if greatest < trimmed.length then reject (.tooLong greatest) place input
    else .fine trimmed
  | _ => reject .notText place input

/-- A number; truth values count as one and zero, texts are read. -/
def checkNumber : Check Float := fun place input =>
  match input with
  | .text s => (Decimal.readField? s).elim (reject .unreadableNumber place input) .fine
  | value =>
    match value.toNumber with
    | .ok x => .fine x
    | .error _ => reject .notNumber place input

/-- A number that is neither infinite nor undefined. -/
def checkFinite : Check Float := fun place input =>
  (checkNumber place input).andThen fun x =>
    if x.isFinite then .fine x else reject .notFinite place input

/-- A finite number that is not negative. -/
def checkAmount : Check Float := fun place input =>
  (checkFinite place input).andThen fun x =>
    if 0 ≤ x then .fine x else reject (.below 0) place input

/-- A finite number above zero. -/
def checkPositive : Check Float := fun place input =>
  (checkFinite place input).andThen fun x =>
    if 0 < x then .fine x else reject (.notAbove 0) place input

/-- A number of degrees up to a bound, on both sides of zero. -/
def checkDegrees (bound : Nat) : Check Float := fun place input =>
  (checkNumber place input).andThen fun x =>
    if !(x ≤ Float.ofNat bound) then reject (.above bound) place input
    else if !(-Float.ofNat bound ≤ x) then reject (.below (-bound)) place input
    else .fine x

/-- A document that may be null. -/
def checkOptional {α : Type} (check : Check α) : Check (Option α) := fun place input =>
  match input with
  | .null => .fine none
  | value => (check place value).map some

/-- A field that must be there. -/
def required {α : Type} (check : Check α) (key : String) (fields : Fields) : Checked α :=
  match fields.find? key with
  | some value => check [key] value
  | none => reject .missing [key] (.object fields)

/-- A field with a value in place of a missing one. -/
def defaulted {α : Type} (check : Check α) (value : α) (key : String) (fields : Fields) :
    Checked α :=
  match fields.find? key with
  | some input => check [key] input
  | none => .fine value

/-- A field that may be missing or null. -/
def optional {α : Type} (check : Check α) (key : String) (fields : Fields) :
    Checked (Option α) :=
  defaulted (checkOptional check) none key fields

end JourneyCost.Trip
