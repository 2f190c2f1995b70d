import JourneyCost.Data.Files
import JourneyCost.Text.Pattern

/-!
# The files of a table

A table may be spread over several files.  A path leads to one file, to a directory with files of
one kind, which may lie in directories below it, or it is a pattern for names.  Empty files are
passed over unless the path leads to them.
-/

namespace JourneyCost.Data.Files

/-- The places of files below directories, level by level, at most as many levels as the fuel
allows directories. -/
def filesBelow (files : Files) : Nat → List Place → List (Place × Bytes)
  | _, [] => []
  | 0, _ => []
  | fuel + 1, place :: more =>
    let found := files.children place
    let below := found.filterMap fun entry =>
      match entry.2 with
      | .directory => some (place ++ [entry.1])
      | .file _ => none
    let parts := found.filterMap fun entry =>
      match entry.2 with
      | .file bytes => if bytes.isEmpty then none else some (place ++ [entry.1], bytes)
      | .directory => none
    parts ++ filesBelow files fuel (more ++ below)

/-- What follows the last point of a name, unless it is the only one and comes first. -/
def extension (place : Place) : String :=
  let name := (place.getLastD "").toList
  let ending := name.reverse.takeWhile (· != '.')
  if name.length ≤ ending.length + 1 then "" else String.ofList ending.reverse

/-- The files below a directory, which must be of one kind. -/
def directoryParts (files : Files) (place : Place) : Except Fault (List Bytes) :=
  let parts := files.filesBelow (files.entries.length + 1) [place]
  match parts with
  | [] => .error .malformedTable
  | first :: more =>
    if more.all fun part => extension part.1 == extension first.1 then .ok (parts.map (·.2))
    else .error .mixedKinds

/-- The places that a sequence of patterns leads to. -/
def matching (files : Files) (place : Place) : List String → Except Fault (List Place)
  | [] => .ok [place]
  | name :: more =>
    match files.entryAt? place with
    | some .directory =>
      if name.toList.any Text.isWildcardMark then
        match Text.wildcards? name.toList with
        | some parts => do
          let names := (files.children place).map (·.1)
          let found ← (names.filter fun name => Text.matchesName parts name.toList).mapM
            fun name => files.matching (place ++ [name]) more
          return found.flatten
        | none => .error .malformedTable
      else
        match step place name with
        | .ok next => if (files.entryAt? next).isSome then files.matching next more else .ok []
        | .error _ => .ok []
    | _ => .ok []

/-- The files that a pattern leads to. -/
def patternParts (files : Files) (path : String) : Except Fault (List Bytes) := do
  let places ← files.matching (if rootMark path == "" then home else []) (pathNames path)
  let parts := places.filterMap fun place =>
    match files.entryAt? place with
    | some (.file bytes) => if bytes.isEmpty then none else some bytes
    | _ => none
  if parts.isEmpty then throw .malformedTable else return parts

/-- The files of the table that a path leads to. -/
def tableParts (files : Files) (path : String) : Except Fault (List Bytes) := do
  let place ← files.locate path
  match files.entryAt? place with
  | some .directory => files.directoryParts place
  | entry =>
    if path.toList.any Text.isWildcardMark then files.patternParts path
    else
      match entry with
      | some (.file bytes) => return [bytes]
      | _ => throw .missingFile

end JourneyCost.Data.Files
