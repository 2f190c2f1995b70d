import JourneyCost.Data.Files
import JourneyCost.Json.Writer

/-!
# The bundled data sets

A few plazas and prices come with the library, so that an estimate can be made before any data set
was built.
-/

namespace JourneyCost.Data.Bundled

/-- The name of the bundled toll data set. -/
def tollName : String := "toll_plazas.json"

/-- The name of the bundled fuel data set. -/
def fuelName : String := "fuel_prices.json"

/-- The path of the bundled toll data set. -/
def tollPath : String := "/data/" ++ tollName

/-- The path of the bundled fuel data set. -/
def fuelPath : String := "/data/" ++ fuelName

/-- Tolls for a single passage and for the way back. -/
def bothWays (category : String) (single back : Int) : String × Json :=
  (category, .object [("single", .int single), ("return", .int back)])

/-- Tolls for a single passage, for the way back, and for a month. -/
def monthly (category : String) (single back month : Int) : String × Json :=
  (category, .object [("single", .int single), ("return", .int back), ("monthly", .int month)])

/-- The members of a record that say what a plaza is. -/
def plaza (id name state highway : String) (rest : Fields) : Json :=
  .object ([("id", .text id), ("name", .text name), ("state", .text state),
    ("highway", .text highway)] ++ rest)

/-- The bundled toll data set. -/
def tolls : Json :=
  .object [("toll_plazas", .list [
    plaza "NH48-KHERKI-DAULA" "Kherki Daula" "Haryana" "NH48" [
      ("location", .object [("lat", .float 28.395), ("lng", .float 76.983)]),
      ("fees", .object [monthly "car" 80 120 2680, monthly "lcv" 130 195 4330,
        monthly "bus" 270 405 9070, monthly "multi_axle" 425 640 14230])],
    plaza "NH48-SHAHJAHANPUR" "Shahjahanpur" "Rajasthan" "NH48" [
      ("location", .object [("lat", .float 27.999), ("lng", .float 76.43)]),
      ("fees", .object [bothWays "car" 150 225, bothWays "lcv" 240 360, bothWays "bus" 505 755,
        bothWays "multi_axle" 790 1185, bothWays "4to6_axle" 790 1185,
        bothWays "7_or_more_axle" 960 1440])],
    plaza "NH48-DAULATPURA" "Daulatpura" "Rajasthan" "NH48" [
      ("location", .list [.float 27.0315, .float 75.7265]),
      ("fees", .object [("car", .object [("singleFare", .text "95")]),
        ("lcv", .object [("singleFare", .text "150")]),
        ("bus", .object [("singleFare", .text "315")])])],
    plaza "NH44-MURTHAL" "Murthal" "Haryana" "NH44" [
      ("lat", .float 29.0306), ("lon", .float 77.0731),
      ("fees", .object [("car", .int 110), ("lcv", .int 175), ("bus", .int 365)]),
      ("multi_axle", .int 575)],
    plaza "NH44-PANIPAT" "Panipat" "Haryana" "NH44" [
      ("location", .object [("latitude", .float 29.3541), ("longitude", .float 76.9947)]),
      ("fees", .object [("car", .object [("fare", .int 145)]),
        ("lcv", .object [("fare", .int 235)]), ("bus", .object [("amount", .int 490)])])]])]

/-- A city with its position and the prices of petrol and diesel, and perhaps of others. -/
def city (name : String) (petrol diesel : Float) (others : Fields) (lat lng : Float)
    (lngKey : String) : String × Json :=
  (name, .object ([("petrol", .float petrol), ("diesel", .float diesel)] ++ others ++
    [("location", .object [("lat", .float lat), (lngKey, .float lng)])]))

/-- The bundled fuel data set. -/
def fuel : Json :=
  .object [
    ("Delhi", .object [city "New Delhi" 94.77 87.67 [] 28.6139 77.209 "lng"]),
    ("Haryana", .object [city "Gurugram" 95.6 88.46 [] 28.4595 77.0266 "lng",
      city "Panipat" 95.21 88.07 [] 29.3909 76.9635 "lng"]),
    ("Rajasthan", .object [city "Jaipur" 104.72 90.21 [] 26.9124 75.7873 "lng"]),
    ("Maharashtra", .object [
      city "Mumbai" 103.44 89.97 [("cng", .float 76.0)] 19.076 72.8777 "lon"])]

/-- A store with the bundled data sets. -/
def files : Files :=
  ((Files.empty.put ["data"] .directory).put ["data", tollName]
    (.file (Text.toBytes (String.ofList (Json.write .compact 0 tolls))))).put ["data", fuelName]
    (.file (Text.toBytes (String.ofList (Json.write .compact 0 fuel))))

end JourneyCost.Data.Bundled
