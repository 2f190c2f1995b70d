import JourneyCost.Json.Display
import JourneyCost.Upkeep.CommandOption

/-!
# Arguments of maintenance commands

Arguments are sorted into options and values first; then the options take their values from left
to right.  What belongs to no option is refused, but only after every option was found to be in
order.
-/

namespace JourneyCost.Upkeep

/-- The values that options took. -/
structure Arguments where
  /-- Values of options by name, the last one first; flags have an empty one. -/
  values : List (String × String)
  /-- Arguments that belong to no option. -/
  strangers : List String

namespace Arguments

/-- A text in quotes, as messages show it. -/
def quoted (s : String) : String := Json.shownText s

/-- Checks that an option can take a value. -/
def checkValue (option : CommandOption) (value : String) : Except Fault Unit :=
  match option.kind with
  | .flag | .text => .ok ()
  | .float =>
    if (Decimal.readFloat? value).isSome then .ok ()
    else .error (option.fault ("invalid float value: " ++ quoted value))
  | .int =>
    if (Decimal.readInt? value).isSome then .ok ()
    else .error (option.fault ("invalid int value: " ++ quoted value))
  | .oneOf allowed =>
    match Decimal.readInt? value with
    | none => .error (option.fault ("invalid int value: " ++ quoted value))
    | some n =>
      if allowed.contains n then .ok ()
      else
        .error (option.fault ("invalid choice: " ++ toString n ++ " (choose from " ++
          String.intercalate ", " (allowed.map toString) ++ ")"))

/-- The arguments after an option took a value. -/
def take (arguments : Arguments) (option : CommandOption) (value : String) :
    Except Fault Arguments := do
  checkValue option value
  return { arguments with values := (option.key, value) :: arguments.values }

/-- The arguments after an option that takes nothing; some of these end the command. -/
def raise (arguments : Arguments) (option : CommandOption) : Except Fault Arguments :=
  if option.endsCommand then .error .commandEnded
  else .ok { arguments with values := (option.key, "") :: arguments.values }

/-- Options that were given together: some that take nothing, and perhaps a last one that takes
a value, which may have come with it. -/
structure Cluster where
  /-- The options that take nothing. -/
  flags : List CommandOption
  /-- The option that takes a value. -/
  taker : Option (CommandOption × Option String)

/-- The options in a run of letters after an option. -/
def Cluster.ofLetters (options : List CommandOption) (option : CommandOption) :
    List Char → Except Fault Cluster
  | [] =>
    .ok (if option.kind == .flag then ⟨[option], none⟩ else ⟨[], some (option, none)⟩)
  | letter :: more =>
    if option.kind != .flag then
      .ok ⟨[], some (option, some (String.ofList (letter :: more)))⟩
    else
      match withName? options (String.ofList ['-', letter]) with
      | some next => do
        let cluster ← Cluster.ofLetters options next more
        return { cluster with flags := option :: cluster.flags }
      | none =>
        .error (option.fault ("ignored explicit argument " ++
          quoted (String.ofList (letter :: more))))

/-- The options that a mention stands for. -/
def Cluster.ofMention (options : List CommandOption) (found : Mention) : Except Fault Cluster :=
  match found.given with
  | none => Cluster.ofLetters options found.option []
  | some text =>
    if found.option.kind != .flag then .ok ⟨[], some (found.option, some text)⟩
    else if "--".toList.isPrefixOf found.name.toList || text == "" then
      .error (found.option.fault ("ignored explicit argument " ++ quoted text))
    else Cluster.ofLetters options found.option text.toList

/-- The arguments after options that were given together, with the value of the last one. -/
def takeCluster (arguments : Arguments) (cluster : Cluster) (value : String) :
    Except Fault Arguments := do
  let arguments ← cluster.flags.foldlM raise arguments
  match cluster.taker with
  | some (option, _) => arguments.take option value
  | none => return arguments

/-- Lets the options take their values. -/
def collect (options : List CommandOption) (arguments : Arguments) :
    List (String × ArgumentClass) → Except Fault Arguments
  | [] => .ok arguments
  | (_, .mention found) :: rest =>
    match Cluster.ofMention options found with
    | .error fault => .error fault
    | .ok cluster =>
      match cluster.taker, rest with
      | none, rest => do collect options (← arguments.takeCluster cluster "") rest
      | some (_, some value), rest => do
        collect options (← arguments.takeCluster cluster value) rest
      | some (_, none), (value, .value) :: more => do
        collect options (← arguments.takeCluster cluster value) more
      | some (option, none), _ => .error (option.fault "expected one argument")
  | (argument, _) :: rest =>
    collect options { arguments with strangers := arguments.strangers ++ [argument] } rest

/-- The value of an option. -/
def get? (arguments : Arguments) (key : String) : Option String := arguments.values.lookup key

/-- Whether an option was given. -/
def has (arguments : Arguments) (key : String) : Bool := (arguments.get? key).isSome

/-- Required options that were not given. -/
def missing (arguments : Arguments) (options : List CommandOption) : List String :=
  (options.filter fun option => option.isRequired && !arguments.has option.key).map
    CommandOption.label

/-- The options of a command line. -/
def read (own : List CommandOption) (line : List String) : Except Fault Arguments := do
  let options := commonOptions ++ own
  let arguments ← collect options ⟨[], []⟩ (← classifyAll options line)
  let missing := arguments.missing options
  if !missing.isEmpty then
    throw (.commandRefused ("Error: the following arguments are required: " ++
      String.intercalate ", " missing))
  if !arguments.strangers.isEmpty then
    throw (.commandRefused ("Error: unrecognized arguments: " ++
      String.intercalate " " arguments.strangers))
  if arguments.has "--no-color" && arguments.has "--force-color" then
    throw (.commandRefused "The --no-color and --force-color options can't be used together.")
  return arguments

end Arguments

end JourneyCost.Upkeep
