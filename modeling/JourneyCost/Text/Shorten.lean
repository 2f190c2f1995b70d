/-!
# Shortened texts

A reply is cut to a number of characters before it is put on record.  The records themselves are
not kept here.  A negative number counts characters that are dropped at the end.
-/

namespace JourneyCost.Text

/-- The text cut to a limit; what is empty or missing gets a mark of its own. -/
def shorten (limit : Int) : Option String → String
  | none => "<empty>"
  | some s =>
    if s.isEmpty then "<empty>"
    else if (s.length : Int) ≤ limit then s
    else
      let kept := if limit < 0 then (s.length + limit).toNat else limit.toNat
      String.ofList (s.toList.take kept)

end JourneyCost.Text
