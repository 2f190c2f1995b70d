/-!
# Causes of failure

Every operation that can fail names its cause here.  The first group says what was wrong with a
value, the second what was wrong with something outside (a file, a table, a form, an address),
and the third is the vocabulary of trip estimation itself, with the wording shown to a caller.
-/

namespace JourneyCost

/-- Why an operation gave no result. -/
inductive Fault where
  /-- An integer too large for a float. -/
  | overflow
  /-- A value of the right kind outside the domain of an operation. -/
  | malformed
  /-- A value of a kind that the operation is not defined on. -/
  | wrongKind
  /-- A member that an object does not have. -/
  | missingMember
  /-- A position past the end of a list or text. -/
  | missingItem
  /-- An operation that only objects have, asked of something else. -/
  | notAnObject
  /-- A division by zero. -/
  | divisionByZero
  /-- A text that is not a document. -/
  | malformedDocument
  /-- Bytes that are not a text in their encoding. -/
  | malformedText
  /-- A file that is not there. -/
  | missingFile
  /-- A directory where a file was wanted. -/
  | directoryFound
  /-- A file where a directory was wanted. -/
  | notDirectory
  /-- A file or a directory where a new one was wanted. -/
  | alreadyThere
  /-- A path, or a name on it, that is too long. -/
  | nameTooLong
  /-- A table with a broken quotation or a row that is too long. -/
  | malformedTable
  /-- A table without a header. -/
  | emptyTable
  /-- A directory with files of several kinds where a table was wanted. -/
  | mixedKinds
  /-- An encoding that is not one of texts. -/
  | noTextEncoding
  /-- Bytes that an encoding of texts refuses as a whole. -/
  | strictEncoding
  /-- A form that does not declare the one encoding that forms have. -/
  | malformedForm
  /-- A form in an address with more fields than are taken, or with one that is refused. -/
  | tooManyFields
  /-- An address that no request can be sent to. -/
  | malformedAddress
  /-- The name of a map provider that is not known. -/
  | unknownProvider (name : String)
  /-- A maintenance command that refuses its work. -/
  | commandRefused (message : String)
  /-- A maintenance command that ended after it had shown how it is used. -/
  | commandEnded
  /-- A trip parameter that is missing or contradictory. -/
  | invalidInput (message : String)
  /-- A mileage that is not positive. -/
  | invalidMileage
  /-- A text endpoint without a place. -/
  | geocodeFailed
  /-- No drivable route. -/
  | routeUnavailable (message reason : String)
  /-- A map provider that did not do its part. -/
  | providerFailed (message : String) (status : Option Int) (reason : String)
  /-- An unexpected failure inside an estimate. -/
  | estimateFailed
deriving DecidableEq, Repr

namespace Fault

/-- Faults of a value that has the right kind but not the right form. -/
def isMalformed : Fault → Bool
  | malformed | malformedDocument | malformedText | strictEncoding | unknownProvider _ => true
  | _ => false

/-- Faults of a value that cannot be read as a number: its form or its kind is wrong. -/
def isUnreadable (fault : Fault) : Bool := fault.isMalformed || fault == wrongKind

/-- Faults of a value that is looked up by member or position and then read as a number. -/
def isUnusable (fault : Fault) : Bool :=
  fault.isUnreadable || fault == missingMember || fault == missingItem

/-- Faults of a file that cannot be read. -/
def isUnavailable : Fault → Bool
  | missingFile | directoryFound | notDirectory | alreadyThere | nameTooLong => true
  | _ => false

/-- Whether the fault belongs to the vocabulary of trip estimation. -/
def isTripFault : Fault → Bool
  | invalidInput _ | invalidMileage | geocodeFailed | routeUnavailable .. | providerFailed ..
  | estimateFailed => true
  | _ => false

/-- The wording of a fault that is shown to a caller. -/
def message : Fault → String
  | unknownProvider name => s!"Unknown maps provider: {name}"
  | commandRefused text => text
  | invalidInput text => text
  | invalidMileage => "mileage must be greater than 0"
  | geocodeFailed => "geocode_failed_for_start_or_destination"
  | routeUnavailable text _ => text
  | providerFailed text _ _ => text
  | estimateFailed => "Internal error while estimating trip cost"
  | _ => ""

end Fault

/-- The result, or a substitute if the fault belongs to a class. -/
def recoverWhen {α : Type} (belongs : Fault → Bool) (substitute : α) :
    Except Fault α → Except Fault α
  | .ok value => .ok value
  | .error fault => if belongs fault then .ok substitute else .error fault

section

variable {α β : Type}

@[simp] theorem recoverWhen_ok (belongs : Fault → Bool) (substitute value : α) :
    recoverWhen belongs substitute (.ok value) = .ok value := rfl

@[simp] theorem ok_bind (value : α) (next : α → Except Fault β) :
    (Except.ok value >>= next) = next value := rfl

@[simp] theorem error_bind (fault : Fault) (next : α → Except Fault β) :
    ((Except.error fault : Except Fault α) >>= next) = .error fault := rfl

theorem bind_eq_ok {first : Except Fault α} {next : α → Except Fault β} {result : β} :
    (first >>= next) = .ok result ↔ ∃ value, first = .ok value ∧ next value = .ok result := by
  cases first <;> simp

theorem bind_eq_error {first : Except Fault α} {next : α → Except Fault β} {fault : Fault} :
    (first >>= next) = .error fault ↔
      first = .error fault ∨ ∃ value, first = .ok value ∧ next value = .error fault := by
  cases first <;> simp

theorem recoverWhen_eq_error {belongs : Fault → Bool} {substitute : α}
    {result : Except Fault α} {fault : Fault} :
    recoverWhen belongs substitute result = .error fault ↔
      result = .error fault ∧ belongs fault = false := by
  cases result with
  | ok value => simp [recoverWhen]
  | error cause =>
      unfold recoverWhen
      by_cases forgiven : belongs cause = true <;> grind

end

end JourneyCost
