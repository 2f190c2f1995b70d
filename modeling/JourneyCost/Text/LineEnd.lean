/-!
# Line ends

A line ends with a line feed, a carriage return, or both in a row.
-/

namespace JourneyCost.Text

/-- Characters with a line feed for every line end. -/
def plainLineEnds : List Char → List Char
  | '\r' :: '\n' :: rest => '\n' :: plainLineEnds rest
  | '\r' :: rest => '\n' :: plainLineEnds rest
  | c :: rest => c :: plainLineEnds rest
  | [] => []

/-- A text with a line feed for every line end. -/
def plainLines (s : String) : String := String.ofList (plainLineEnds s.toList)

end JourneyCost.Text
