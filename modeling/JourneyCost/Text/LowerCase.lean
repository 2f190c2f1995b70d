import JourneyCost.Text.CaseTable

/-!
# Small letters

A text in small letters: each capital is replaced by its small form, a dotted capital I becomes
a small i with a combining dot, and a capital sigma that ends a word takes its final form.
-/

namespace JourneyCost.Text

/-- Whether a character is passed over when looking for the letters around a sigma. -/
def isCaseIgnorable (c : Char) : Bool := inRanges caseIgnorableRanges c.toNat

/-- Whether a character is a letter with a case. -/
def isCased (c : Char) : Bool := inRanges casedRanges c.toNat

/-- The small form of a character outside the two special rules. -/
def lowerChar (runs : List CaseRun) (c : Char) : Char :=
  if c.toNat < 128 then c.toLower
  else
    match runs.find? (·.holds c.toNat) with
    | some run => Char.ofNat (c.toNat + run.shift).toNat
    | none => c

/-- Whether the nearest character that is not passed over is a letter with a case. -/
def letterNext (cs : List Char) : Bool :=
  match cs.dropWhile isCaseIgnorable with
  | c :: _ => isCased c
  | [] => false

/-- Small letters, given the characters already read, the nearest first. -/
def lowerFrom (runs : List CaseRun) (before : List Char) : List Char → List Char
  | [] => []
  | c :: rest =>
    let small :=
      if c.toNat == 0x130 then ['i', Char.ofNat 0x307]
      else if c.toNat == 0x3A3 then
        if letterNext before && !letterNext rest then [Char.ofNat 0x3C2] else [Char.ofNat 0x3C3]
      else [lowerChar runs c]
    small ++ lowerFrom runs (c :: before) rest

/-- The text in small letters. -/
def lower (s : String) : String := String.ofList (lowerFrom caseRuns [] s.toList)

/-- The text in small letters, by the newest version of the database. -/
def lowerNewest (s : String) : String :=
  String.ofList (lowerFrom (caseRuns ++ newerCaseRuns) [] s.toList)

end JourneyCost.Text
