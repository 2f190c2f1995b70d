/-!
# Paths

A path is a sequence of names.  Empty names and single dots lead nowhere, so a path has a normal
form without them.  Two slashes at the start are a root of their own; more are one.
-/

namespace JourneyCost.Data

/-- The names of a path that lead somewhere. -/
def pathNames (path : String) : List String :=
  (path.splitOn "/").filter fun name => name != "" && name != "."

/-- The slashes that a path begins with. -/
def rootMark (path : String) : String :=
  match path.toList with
  | '/' :: '/' :: '/' :: _ => "/"
  | '/' :: '/' :: _ => "//"
  | '/' :: _ => "/"
  | _ => ""

/-- The path with the given names. -/
def joinPath (root : String) (names : List String) : String :=
  let path := root ++ String.intercalate "/" names
  if path == "" then "." else path

/-- The normal form of a path. -/
def normalPath (path : String) : String := joinPath (rootMark path) (pathNames path)

/-- The path without its last name. -/
def parentPath (path : String) : String := joinPath (rootMark path) (pathNames path).dropLast

end JourneyCost.Data
