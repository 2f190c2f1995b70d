import JourneyCost.Json.Writer
import JourneyCost.Trip.Planner
import JourneyCost.Upkeep.Arguments

/-!
# The workshop

Maintenance commands work on the files, the data sets that were read, and the wire.  They print one
line, in colour if that is asked for, and may pause between requests.
-/

namespace JourneyCost.Upkeep

open Data Trip

/-- The state that commands work on. -/
structure Shop where
  /-- All files. -/
  files : Files
  /-- The wire and the data sets that were read. -/
  desk : Desk
  /-- Pauses made, in seconds, the last one first. -/
  pauses : List Float

namespace Shop

/-- Makes the directory of a file. -/
def prepare (path : String) : Work Shop Unit :=
  Work.onPart Shop.files (fun shop files => { shop with files := files })
    (Files.ensureDirectory (parentPath path))

/-- Writes a document to a file, and lets the data sets be read again. -/
def save (path : String) (document : Json) : Work Shop Unit := fun shop =>
  match shop.files.write (normalPath path) (Text.toBytes document.pretty) with
  | .ok files =>
    (.ok (), { shop with files := files, desk := { shop.desk with library := Library.empty } })
  | .error fault => (.error fault, shop)

/-- Whether the nanoseconds of a pause are too many to be counted in 64 bits with a sign. -/
def isEndless (seconds : Float) : Bool := 9223372036854775808.0 ≤ seconds * 1e9

/-- Pauses for a time, if there is any; a pause that is too long is a fault. -/
def pause (seconds : Float) : Work Shop Unit := fun shop =>
  if seconds == 0 then (.ok (), shop)
  else if isEndless seconds then (.error .overflow, shop)
  else (.ok (), { shop with pauses := seconds :: shop.pauses })

end Shop

/-- A colour in which a line is printed. -/
inductive Tone where
  /-- The colour of success. -/
  | good
  /-- The colour of a warning. -/
  | warning
deriving DecidableEq, Repr

/-- The code of a colour on a terminal. -/
def Tone.code : Tone → String
  | good => "32;1"
  | warning => "33;1"

/-- A printed line. -/
def printed (arguments : Arguments) (tone : Tone) (text : String) : String :=
  if arguments.has "--force-color" then
    "\x1b[" ++ tone.code ++ "m" ++ text ++ "\x1b[0m\n"
  else text ++ "\n"

end JourneyCost.Upkeep
