import JourneyCost.Geo.Point
import JourneyCost.Net.Call
import JourneyCost.Work

/-!
# The wire

The wire carries calls to map services and their replies, and remembers the places that were
found.  Replies come from a script in the order of the calls; when it is used up, no connection
can be made.
-/

namespace JourneyCost.Net

/-- The name of a place, as one provider looks it up. -/
structure PlaceKey where
  /-- The provider. -/
  provider : String
  /-- The name in its common form. -/
  name : String
deriving DecidableEq, Repr

/-- The state of the wire. -/
structure Wire where
  /-- Replies to come. -/
  replies : List Reply
  /-- Calls sent, in order. -/
  sent : List Call
  /-- Places found, the last one first. -/
  places : List (PlaceKey × Point)
  /-- Whether places are kept. -/
  keeps : Bool

namespace Wire

/-- The reply when the script is used up. -/
def noConnection : Reply := .dropped "ConnectError"

/-- A wire with a script. -/
def start (replies : List Reply) (keeps : Bool) : Wire := ⟨replies, [], [], keeps⟩

/-- Sends a call and gives its reply. -/
def send (call : Call) : Work Wire Reply := fun wire =>
  (.ok (wire.replies.head?.getD noConnection),
    { wire with replies := wire.replies.tail, sent := wire.sent ++ [call] })

/-- A place that was found before. -/
def known? (wire : Wire) (key : PlaceKey) : Option Point := wire.places.lookup key

/-- Keeps a place that was found. -/
def remember (key : PlaceKey) (place : Point) : Work Wire Unit :=
  Work.change fun wire =>
    if wire.keeps then { wire with places := (key, place) :: wire.places } else wire

/-- The wire without the places found. -/
def forget (wire : Wire) : Wire := { wire with places := [] }

end Wire

end JourneyCost.Net
