import JourneyCost.Data.Files
import JourneyCost.Data.Recent
import JourneyCost.Fuel.Price
import JourneyCost.Json.Reader
import JourneyCost.Text.LowerCase
import JourneyCost.Toll.Plaza
import JourneyCost.Work

/-!
# The library of data sets

Toll plazas and fuel prices are read from files.  A file that cannot be read holds nothing.  The
library keeps what it read last: documents by path, plazas by path, and prices by path and kind
of fuel, so a change of a file shows after the library was cleared or the entry was dropped.
-/

namespace JourneyCost.Data

/-- Faults that make a file hold nothing. -/
def holdsNothing (fault : Fault) : Bool := fault.isUnavailable || fault.isMalformed

/-- The records of a toll data set: a list, bare or under one of two names. -/
def tollRecords : Json → List Fields
  | .list records => records.filterMap Json.fields?
  | .object fields =>
    match (fields.lookup "toll_plazas").getD (Fields.get fields "plazas") with
    | .list records => records.filterMap Json.fields?
    | _ => []
  | _ => []

/-- The plazas of a toll data set. -/
def tollPlazas (document : Json) : Except Fault (List Toll.Plaza) :=
  (tollRecords document).mapM Toll.Plaza.ofRecord

/-- The name of a kind of fuel in the data set. -/
def fuelKind (kind : String) : String := Text.lower (Text.trim kind)

/-- The document in a file, whose line ends are all read as line feeds. -/
def readDocument (files : Files) (path : String) : Except Fault Json := do
  Json.read (Text.plainLines (← files.readText path))

/-- What was read last. -/
structure Library where
  /-- Documents by path. -/
  documents : Recent String Json
  /-- Plazas by path. -/
  plazas : Recent String (List Toll.Plaza)
  /-- Prices by path and kind of fuel. -/
  prices : Recent (String × String) (List Fuel.Entry)

namespace Library

/-- A library that has read nothing. -/
def empty : Library := ⟨.empty, .empty, .empty⟩

/-- Number of documents kept. -/
def documentCapacity : Nat := 8

/-- Number of lists of plazas kept. -/
def plazaCapacity : Nat := 8

/-- Number of lists of prices kept. -/
def priceCapacity : Nat := 32

/-- The document in a file, as it was when it was read. -/
def document (files : Files) (path : String) : Work Library Json := fun library =>
  match library.documents.find? path with
  | some value => (.ok value, { library with documents := library.documents.use path })
  | none =>
    match readDocument files path with
    | .ok value =>
      (.ok value,
        { library with documents := library.documents.keep documentCapacity path value })
    | .error fault => (.error fault, library)

/-- The document in a file, null if the file holds nothing. -/
def documentOrNull (files : Files) (path : String) : Work Library Json :=
  (document files path).recover holdsNothing .null

/-- The toll plazas in a file. -/
def loadPlazas (files : Files) (path : String) : Work Library (List Toll.Plaza) := do
  match (← Work.look).plazas.find? path with
  | some found =>
    Work.change fun library => { library with plazas := library.plazas.use path }
    return found
  | none =>
    let plazas ← Work.ofExcept (tollPlazas (← documentOrNull files path))
    Work.change fun library =>
      { library with plazas := library.plazas.keep plazaCapacity path plazas }
    return plazas

/-- The prices in a file for a kind of fuel. -/
def loadPrices (files : Files) (path kind : String) : Work Library (List Fuel.Entry) := do
  let key := (path, fuelKind kind)
  match (← Work.look).prices.find? key with
  | some found =>
    Work.change fun library => { library with prices := library.prices.use key }
    return found
  | none =>
    let prices ← Work.ofExcept (Fuel.entries (fuelKind kind) (← documentOrNull files path))
    Work.change fun library =>
      { library with prices := library.prices.keep priceCapacity key prices }
    return prices

end Library

end JourneyCost.Data
