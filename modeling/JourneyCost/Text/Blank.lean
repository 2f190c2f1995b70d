/-!
# Blank characters and trimming

Two classes of blanks are in use.  A *blank* has the Unicode white-space property; a *spacing*
character is a blank or one of the four information separators.  Trimming drops a class of
characters from both ends of a text and nothing else.
-/

namespace JourneyCost.Text

/-- Characters with the Unicode white-space property. -/
def isBlank (c : Char) : Bool :=
  let code := c.toNat
  (9 ≤ code && code ≤ 13) || code == 32 || code == 0x85 || code == 0xA0 || code == 0x1680 ||
    (0x2000 ≤ code && code ≤ 0x200A) || code == 0x2028 || code == 0x2029 || code == 0x202F ||
    code == 0x205F || code == 0x3000

/-- Blanks and the information separators. -/
def isSpacing (c : Char) : Bool :=
  isBlank c || (28 ≤ c.toNat && c.toNat ≤ 31)

/-- A list without the members of a class at either end. -/
def trimmed (p : Char → Bool) (cs : List Char) : List Char :=
  ((cs.dropWhile p).reverse.dropWhile p).reverse

/-- A text without blanks at either end. -/
def trimBlanks (s : String) : String := String.ofList (trimmed isBlank s.toList)

/-- A text without spacing characters at either end. -/
def trim (s : String) : String := String.ofList (trimmed isSpacing s.toList)

end JourneyCost.Text
