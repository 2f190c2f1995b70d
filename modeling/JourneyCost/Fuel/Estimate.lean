import JourneyCost.Fuel.Price
import JourneyCost.Text.LowerCase

/-!
# The price of fuel for a journey

Fuel is priced from the first source that applies: a total or a price of a litre that the caller
names, the data set entry for a preferred region, the first entry, and a fixed price.  The data set
is consulted only if the caller names no positive amount.
-/

namespace JourneyCost.Fuel

/-- What a price is taken from if the caller names none. -/
structure Pricing where
  /-- The preferred region. -/
  region : String
  /-- The price of a litre if the data set is empty, in the number form in which it was set. -/
  fallback : Json

/-- What the caller names. -/
structure Offer where
  /-- A total. -/
  total : Option Float
  /-- A price of a litre. -/
  perLitre : Option Float

/-- The fuel of a journey. -/
structure Estimate where
  /-- Litres needed. -/
  litres : Float
  /-- Price of a litre, in the number form in which it was named. -/
  pricePerLitre : Json
  /-- Price of all fuel. -/
  total : Float
  /-- Where the price was taken from. -/
  source : String

/-- Whether an amount is named and positive. -/
def isPositive (amount : Option Float) : Bool := amount.any fun x => 0 < x

/-- An amount that is named and not ruled out by being zero or less. -/
def named? (amount : Option Float) : Option Float := amount.filter fun x => !(x ≤ 0)

/-- Whether the data set is consulted. -/
def Offer.needsPrices (offer : Offer) : Bool :=
  !(isPositive offer.total || isPositive offer.perLitre)

/-- The price of a litre as a float. -/
def Estimate.rate (estimate : Estimate) : Float :=
  estimate.pricePerLitre.toNumber.toOption.getD 0

/-- The estimate at a price of a litre. -/
def atPrice (litres price : Float) (source : String) : Estimate :=
  ⟨litres, .float price, litres * price, source⟩

/-- The estimate at the fixed price. -/
def atFallback (litres : Float) (price : Json) : Except Fault Estimate := do
  return { atPrice litres (← price.toNumber) "fallback" with pricePerLitre := price }

/-- The estimate at the price of an entry. -/
def atEntry (litres : Float) (entry : Entry) : Estimate :=
  atPrice litres entry.price ("dataset:" ++ entry.state ++ "/" ++ entry.city)

/-- The entry that the data set offers: the first of the preferred region, or the first. -/
def preferred? (region : String) (prices : List Entry) : Option Entry :=
  (prices.find? fun entry => Text.lower entry.state == Text.lower region).or prices.head?

/-- The estimate from the first source that applies. -/
def quote (pricing : Pricing) (offer : Offer) (prices : List Entry) (litres : Float) :
    Except Fault Estimate :=
  match named? offer.total with
  | some total =>
    .ok ⟨litres, .float (if 0 < litres then total / litres else 0), total, "user_total_cost"⟩
  | none =>
    match named? offer.perLitre with
    | some price => .ok (atPrice litres price "user_per_litre_price")
    | none =>
      match preferred? pricing.region prices with
      | some entry => .ok (atEntry litres entry)
      | none => atFallback litres pricing.fallback

/-- Litres for a distance. -/
def litresFor (distanceKm : Float) : Option Float → Except Fault Float
  | none => .error .invalidMileage
  | some mileage => if mileage ≤ 0 then .error .invalidMileage else .ok (distanceKm / mileage)

/-- The fuel for a distance, with prices that are fetched if they are needed. -/
def estimate {m : Type → Type} [Monad m] [MonadExceptOf Fault m] (pricing : Pricing)
    (offer : Offer) (fetch : m (List Entry)) (distanceKm : Float) (mileage : Option Float) :
    m Estimate := do
  let litres ← MonadExcept.ofExcept (litresFor distanceKm mileage)
  let prices ← if offer.needsPrices then fetch else pure []
  MonadExcept.ofExcept (quote pricing offer prices litres)

end JourneyCost.Fuel
