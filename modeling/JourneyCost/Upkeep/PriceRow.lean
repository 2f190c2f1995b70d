import JourneyCost.Fault
import JourneyCost.Json.Display
import JourneyCost.Table.Sheet
import JourneyCost.Text.LowerCase

/-!
# Rows of a price table

A price table has columns for state, city, kind of fuel and price, and may have columns for a
position.  A row counts if it names all three and has a positive price.  Of several rows for one
kind of fuel in one city the cheapest counts.
-/

namespace JourneyCost.Upkeep

/-- A row of a price table. -/
structure PriceRow where
  /-- The state. -/
  state : String
  /-- The city. -/
  city : String
  /-- The kind of fuel in small letters. -/
  fuel : String
  /-- The price of a litre. -/
  price : Float
  /-- Degrees north. -/
  latitude : Option Float
  /-- Degrees east. -/
  longitude : Option Float

namespace PriceRow

/-- What a row is about. -/
def key (row : PriceRow) : String × String × String := (row.state, row.city, row.fuel)

/-- Whether a row names what it is about and has a positive price. -/
def isUsable (row : PriceRow) : Bool :=
  !(row.price ≤ 0) && row.state != "" && row.city != "" && row.fuel != ""

/-- Whether one price is no greater than another; what is not a number is greatest. -/
def priceLe (x y : Float) : Bool := x ≤ y || y.isNaN

/-- The order of rows: by what they are about, then by price. -/
def le (a b : PriceRow) : Bool :=
  if a.state != b.state then decide (a.state < b.state)
  else if a.city != b.city then decide (a.city < b.city)
  else if a.fuel != b.fuel then decide (a.fuel < b.fuel)
  else priceLe a.price b.price

/-- The rows that are not about the same as the last one kept before them. -/
def firstAfter (key : String × String × String) : List PriceRow → List PriceRow
  | [] => []
  | row :: more =>
    if row.key == key then firstAfter key more else row :: firstAfter row.key more

/-- The first row of each run of rows about the same. -/
def firstOfEach : List PriceRow → List PriceRow
  | [] => []
  | row :: more => row :: firstAfter row.key more

/-- The cheapest usable row for each key, in order. -/
def cheapest (rows : List PriceRow) : List PriceRow :=
  firstOfEach ((rows.filter isUsable).mergeSort le)

end PriceRow

/-- Columns that a price table must have, in the order in which they are reported. -/
def requiredColumns : List String := ["City", "Fuel Type", "Price", "State"]

/-- The fault of a table without some of its columns. -/
def missingColumns (names : List String) : Fault :=
  .commandRefused ("Missing expected columns: " ++ (Json.list (names.map .text)).display)

/-- A column of texts without blanks around them. -/
def textColumn (sheet : Table.Sheet) (name : String) : List String :=
  ((sheet.column? name).elim [] Table.Column.texts).map fun field =>
    Text.trimBlanks (field.getD "")

/-- A column of numbers; a column that is not there holds nothing. -/
def numberColumn (sheet : Table.Sheet) (name : String) : List (Option Float) :=
  match sheet.column? name with
  | some column => column.floats
  | none => List.replicate sheet.height none

/-- A row from the fields of its columns, if it has a price. -/
def priceRow? (names : String × String × String)
    (numbers : Option Float × Option Float × Option Float) : Option PriceRow :=
  numbers.1.map fun price =>
    ⟨names.1, names.2.1, Text.lowerNewest names.2.2, price, numbers.2.1, numbers.2.2⟩

/-- All rows of a price table that have a price. -/
def priceRows (sheet : Table.Sheet) : List PriceRow :=
  let names := (textColumn sheet "State").zip
    ((textColumn sheet "City").zip (textColumn sheet "Fuel Type"))
  let numbers := (numberColumn sheet "Price").zip
    ((numberColumn sheet "Latitude").zip (numberColumn sheet "Longitude"))
  (names.zipWith priceRow? numbers).filterMap id

/-- The rows of a price table. -/
def readPrices (sheet : Table.Sheet) : Except Fault (List PriceRow) :=
  let missing := requiredColumns.filter fun name => !sheet.header.contains name
  if missing.isEmpty then .ok (priceRows sheet) else .error (missingColumns missing)

end JourneyCost.Upkeep
