import JourneyCost.Decimal.Numeral
import JourneyCost.Fault
import JourneyCost.Text.Digit
import JourneyCost.Text.Split

/-!
# Options of maintenance commands

An option has one or more names and may take a value.  A name may be shortened as long as it stays
clear which option is meant, and a value may stand behind the name and an equals sign.
-/

namespace JourneyCost.Upkeep

/-- What an option takes. -/
inductive OptionKind where
  /-- Nothing. -/
  | flag
  /-- A text. -/
  | text
  /-- An integer. -/
  | int
  /-- A float. -/
  | float
  /-- One of a few integers. -/
  | oneOf (allowed : List Int)
deriving DecidableEq, Repr

/-- An option of a command. -/
structure CommandOption where
  /-- The names, the one that it is known by last. -/
  names : List String
  /-- What it takes. -/
  kind : OptionKind
  /-- Whether it must be given. -/
  isRequired : Bool := false

namespace CommandOption

/-- The names of an option in a message. -/
def label (option : CommandOption) : String := String.intercalate "/" option.names

/-- The name that an option is known by. -/
def key (option : CommandOption) : String := option.names.getLastD ""

/-- A fault of an option. -/
def fault (option : CommandOption) (text : String) : Fault :=
  .commandRefused ("Error: argument " ++ option.label ++ ": " ++ text)

end CommandOption

/-- Whether the option only shows something and ends the command. -/
def CommandOption.endsCommand (option : CommandOption) : Bool :=
  option.key == "--help" || option.key == "--version"

/-- Options that every command has. -/
def commonOptions : List CommandOption :=
  [⟨["-h", "--help"], .flag, false⟩, ⟨["--version"], .flag, false⟩,
   ⟨["-v", "--verbosity"], .oneOf [0, 1, 2, 3], false⟩, ⟨["--settings"], .text, false⟩,
   ⟨["--pythonpath"], .text, false⟩, ⟨["--traceback"], .flag, false⟩,
   ⟨["--no-color"], .flag, false⟩, ⟨["--force-color"], .flag, false⟩,
   ⟨["--skip-checks"], .flag, false⟩]

/-- A name with the option that it belongs to, and the value that came with it. -/
structure Mention where
  /-- The option. -/
  option : CommandOption
  /-- The name. -/
  name : String
  /-- The value that came with it. -/
  given : Option String

/-- What an argument is taken for. -/
inductive ArgumentClass where
  /-- A value, or an argument that belongs to no option. -/
  | value
  /-- The mark after which there are no options. -/
  | mark
  /-- An option of the command. -/
  | mention (found : Mention)
  /-- An option that the command does not have. -/
  | stranger

/-- A text cut at its first equals sign. -/
def cutEquals (s : String) : String × Option String :=
  let (name, value) := Text.cutChars '=' s.toList
  (String.ofList name, value.map String.ofList)

/-- All names of options, each with its option. -/
def allNames (options : List CommandOption) : List (String × CommandOption) :=
  options.flatMap fun option => option.names.map fun name => (name, option)

/-- The option with a full name. -/
def withName? (options : List CommandOption) (name : String) : Option CommandOption :=
  (allNames options).lookup name

/-- The options that a shortened name may stand for. -/
def candidates (options : List CommandOption) (argument : String) : List Mention :=
  match argument.toList with
  | '-' :: '-' :: _ =>
    let (start, value) := cutEquals argument
    ((allNames options).filter fun entry => start.toList.isPrefixOf entry.1.toList).map
      fun entry => ⟨entry.2, entry.1, value⟩
  | '-' :: c :: tail =>
    (allNames options).filterMap fun entry =>
      if entry.1 == String.ofList ['-', c] then
        some ⟨entry.2, entry.1, some (String.ofList tail)⟩
      else if argument.toList.isPrefixOf entry.1.toList then some ⟨entry.2, entry.1, none⟩
      else none
  | _ => []

/-- Whether an argument is a negative number in its simplest form: a minus sign, digits of any
script, and perhaps a point with digits after it.  A line end after it does not matter. -/
def isNegativeNumber (argument : String) : Bool :=
  let isDigit := fun c => (Text.digitValue? c).isSome
  match argument.toList with
  | '-' :: rest =>
    let rest := if rest.getLast? == some '\n' then rest.dropLast else rest
    match rest.dropWhile isDigit with
    | [] => !rest.isEmpty
    | '.' :: fraction => !fraction.isEmpty && fraction.all isDigit
    | _ => false
  | _ => false

/-- What an argument that begins with no full name is taken for. -/
def classifyShort (options : List CommandOption) (argument : String) :
    Except Fault ArgumentClass :=
  match candidates options argument with
  | [] =>
    .ok (if isNegativeNumber argument || argument.toList.contains ' ' then .value
      else .stranger)
  | [one] => .ok (.mention one)
  | several =>
    .error (.commandRefused ("Error: ambiguous option: " ++ argument ++ " could match " ++
      String.intercalate ", " (several.map Mention.name)))

/-- What an argument is taken for. -/
def classify (options : List CommandOption) (argument : String) : Except Fault ArgumentClass :=
  if argument.toList.head? != some '-' then .ok .value
  else
    match withName? options argument with
    | some option => .ok (.mention ⟨option, argument, none⟩)
    | none =>
      if argument == "-" then .ok .value
      else
        let (name, value) := cutEquals argument
        match value, withName? options name with
        | some given, some option => .ok (.mention ⟨option, name, some given⟩)
        | _, _ => classifyShort options argument

/-- All arguments with what they are taken for. -/
def classifyAll (options : List CommandOption) :
    List String → Except Fault (List (String × ArgumentClass))
  | [] => .ok []
  | argument :: rest =>
    if argument == "--" then .ok ((argument, .mark) :: rest.map fun value => (value, .value))
    else do
      let found ← classify options argument
      return (argument, found) :: (← classifyAll options rest)

end JourneyCost.Upkeep
