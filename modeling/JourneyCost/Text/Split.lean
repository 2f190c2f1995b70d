/-!
# Splitting texts

A text is split at every separator, so there is one part more than there are separators.
-/

namespace JourneyCost.Text

/-- The parts between separators. -/
def splitChars (separator : Char) : List Char → List (List Char)
  | [] => [[]]
  | c :: rest =>
    if c == separator then [] :: splitChars separator rest
    else
      match splitChars separator rest with
      | [] => [[c]]
      | first :: more => (c :: first) :: more

/-- The characters before the first separator, and those after it if there is one. -/
def cutChars (separator : Char) (cs : List Char) : List Char × Option (List Char) :=
  match cs.dropWhile (· != separator) with
  | [] => (cs, none)
  | _ :: rest => (cs.takeWhile (· != separator), some rest)

/-- The parts of a text between separators. -/
def split (separator : Char) (s : String) : List String :=
  (splitChars separator s.toList).map String.ofList

end JourneyCost.Text
