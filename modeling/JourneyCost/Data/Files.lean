import JourneyCost.Data.Path
import JourneyCost.Text.Encoding
import JourneyCost.Text.LineEnd
import JourneyCost.Work

/-!
# Files

Files and directories stand at places in one tree.  A path leads to a place name by name; every
name but the last must be that of a directory.  Paths that begin at no root begin in the home
directory.
-/

namespace JourneyCost.Data

/-- A place in the tree: the names on the way from the root. -/
abbrev Place := List String

/-- What stands at a place. -/
inductive Entry where
  /-- A file with its bytes. -/
  | file (bytes : Bytes)
  /-- A directory. -/
  | directory

/-- Files and directories by their places. -/
structure Files where
  /-- What stands at which place; the root is not listed. -/
  entries : List (Place × Entry)

namespace Files

/-- The place where paths without a root begin. -/
def home : Place := ["home"]

/-- A store with nothing but the home directory. -/
def empty : Files := ⟨[(home, .directory)]⟩

/-- What stands at a place. -/
def entryAt? (files : Files) (place : Place) : Option Entry :=
  if place.isEmpty then some .directory else files.entries.lookup place

/-- The store with an entry at a place. -/
def put (files : Files) (place : Place) (entry : Entry) : Files :=
  ⟨(place, entry) :: files.entries.filter (·.1 != place)⟩

/-- The store without the entry at a place. -/
def remove (files : Files) (place : Place) : Files :=
  ⟨files.entries.filter (·.1 != place)⟩

/-- Most bytes of a name. -/
def nameLimit : Nat := 255

/-- Most bytes of a path. -/
def pathLimit : Nat := 4095

/-- The place that a name leads to. -/
def step (here : Place) (name : String) : Except Fault Place :=
  if name == "" || name == "." then .ok here
  else if name == ".." then .ok here.dropLast
  else if nameLimit < name.utf8ByteSize then .error .nameTooLong
  else .ok (here ++ [name])

/-- The place that a sequence of names leads to. -/
def walk (files : Files) (here : Place) : List String → Except Fault Place
  | [] => .ok here
  | name :: more =>
    match files.entryAt? here with
    | some .directory => do files.walk (← step here name) more
    | some (.file _) => .error .notDirectory
    | none => .error .missingFile

/-- The place that a path leads to, whether there is something or not. -/
def locate (files : Files) (path : String) : Except Fault Place :=
  if path.toList.contains '\x00' then .error .malformed
  else if path == "" then .error .missingFile
  else if pathLimit < path.utf8ByteSize then .error .nameTooLong
  else files.walk (if rootMark path == "" then home else []) (path.splitOn "/")

/-- What a path leads to. -/
def find (files : Files) (path : String) : Except Fault Entry := do
  match files.entryAt? (← files.locate path) with
  | some entry => return entry
  | none => throw .missingFile

/-- Whether a path leads to something; a name that is too long is not looked for. -/
def has (files : Files) (path : String) : Except Fault Bool :=
  match files.find path with
  | .ok _ => .ok true
  | .error .nameTooLong => .error .nameTooLong
  | .error _ => .ok false

/-- Whether a path leads to a directory. -/
def hasDirectory (files : Files) (path : String) : Bool :=
  match files.find path with
  | .ok .directory => true
  | _ => false

/-- The names and entries of a directory, in the order of the names. -/
def children (files : Files) (place : Place) : List (String × Entry) :=
  (files.entries.filterMap fun entry =>
    match entry.1.getLast? with
    | some name => if entry.1.dropLast == place then some (name, entry.2) else none
    | none => none).mergeSort fun a b => decide (a.1 ≤ b.1)

/-- The bytes of a file. -/
def read (files : Files) (path : String) : Except Fault Bytes := do
  match ← files.find path with
  | .file bytes => return bytes
  | .directory => throw .directoryFound

/-- The text of a file. -/
def readText (files : Files) (path : String) : Except Fault String := do
  match Text.ofBytes? (← files.read path) with
  | some s => return s
  | none => throw .malformedText

/-- The store with a file written in a directory that is there.  A file is written as a whole or not
at all; there is no write that breaks off midway. -/
def write (files : Files) (path : String) (bytes : Bytes) : Except Fault Files := do
  let place ← files.locate path
  match files.entryAt? place with
  | some .directory => throw .directoryFound
  | _ => return files.put place (.file bytes)

/-- The store without a file. -/
def delete (files : Files) (path : String) : Except Fault Files := do
  let place ← files.locate path
  match files.entryAt? place with
  | some (.file _) => return files.remove place
  | some .directory => throw .directoryFound
  | none => throw .missingFile

/-- The store with a new directory. -/
def makeDirectory (files : Files) (path : String) : Except Fault Files := do
  let place ← files.locate path
  match files.entryAt? place with
  | some _ => throw .alreadyThere
  | none => return files.put place .directory

/-- Makes a directory, unless it is there already. -/
def settleDirectory (path : String) : Work Files Unit := fun files =>
  match files.makeDirectory path with
  | .ok more => (.ok (), more)
  | .error fault => (if files.hasDirectory path then .ok () else .error fault, files)

/-- Makes a directory and the directories on the way to it; names are listed backwards.  What was
made before a fault is there after it. -/
def ensureNames (root : String) : List String → Work Files Unit
  | [] => settleDirectory (joinPath root [])
  | name :: before => do
    let path := joinPath root (name :: before).reverse
    match (← Work.look).makeDirectory path with
    | .error .missingFile => do
      ensureNames root before
      settleDirectory path
    | _ => settleDirectory path

/-- Makes a directory and the directories on the way to it. -/
def ensureDirectory (path : String) : Work Files Unit :=
  ensureNames (rootMark path) (pathNames path).reverse

end Files

end JourneyCost.Data
