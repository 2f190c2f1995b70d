/-!
# Patterns of names

In a pattern a question mark stands for any character, an asterisk for any run of characters, and
brackets for one character out of a class; the class is negated if it begins with an exclamation
mark.  A closing bracket that comes first in a class belongs to it.
-/

namespace JourneyCost.Text

/-- A part of a pattern. -/
inductive Wildcard where
  /-- The character itself. -/
  | exact (c : Char)
  /-- Any character. -/
  | anyOne
  /-- Any run of characters. -/
  | anyRun
  /-- A character inside, or outside if negated, some ranges. -/
  | oneOf (negated : Bool) (ranges : List (Char × Char))
deriving DecidableEq, Repr

/-- Characters that stand for something else in a pattern. -/
def isWildcardMark (c : Char) : Bool := c == '*' || c == '?' || c == '['

/-- Whether a part of a pattern, other than a run, admits a character. -/
def Wildcard.admits (c : Char) : Wildcard → Bool
  | .exact d => c == d
  | .oneOf negated ranges => (ranges.any fun range => range.1 ≤ c && c ≤ range.2) != negated
  | _ => true

/-- The ranges of a class. -/
def classRanges : List Char → List (Char × Char)
  | first :: '-' :: last :: rest => (first, last) :: classRanges rest
  | c :: rest => (c, c) :: classRanges rest
  | [] => []

/-- A class that begins after its opening bracket: its first character, its ranges up to the
closing bracket, and what follows. -/
def classBody? : List Char → Option (List (Char × Char) × List Char)
  | [] => none
  | first :: rest =>
    match rest.dropWhile (· != ']') with
    | [] => none
    | _ :: after => some (classRanges (first :: rest.takeWhile (· != ']')), after)

/-- The parts of a pattern, at most as many as the fuel allows. -/
def wildcardsWithin : Nat → List Char → Option (List Wildcard)
  | _, [] => some []
  | 0, _ => none
  | fuel + 1, '?' :: rest => (wildcardsWithin fuel rest).map (.anyOne :: ·)
  | fuel + 1, '*' :: rest =>
    match rest with
    | '*' :: _ => none
    | _ => (wildcardsWithin fuel rest).map (.anyRun :: ·)
  | fuel + 1, '[' :: '!' :: rest => do
    let (ranges, after) ← classBody? rest
    return .oneOf true ranges :: (← wildcardsWithin fuel after)
  | fuel + 1, '[' :: rest => do
    let (ranges, after) ← classBody? rest
    return .oneOf false ranges :: (← wildcardsWithin fuel after)
  | fuel + 1, c :: rest => (wildcardsWithin fuel rest).map (.exact c :: ·)

/-- The parts of a pattern, if it is well formed. -/
def wildcards? (cs : List Char) : Option (List Wildcard) := wildcardsWithin cs.length cs

/-- A list and what is left of it after each of its members. -/
def suffixes {α : Type} : List α → List (List α)
  | [] => [[]]
  | a :: rest => (a :: rest) :: suffixes rest

/-- Whether a pattern matches a whole name. -/
def matchesName : List Wildcard → List Char → Bool
  | [], cs => cs.isEmpty
  | .anyRun :: more, cs => (suffixes cs).any fun rest => matchesName more rest
  | part :: more, c :: rest => part.admits c && matchesName more rest
  | _ :: _, [] => false

end JourneyCost.Text
