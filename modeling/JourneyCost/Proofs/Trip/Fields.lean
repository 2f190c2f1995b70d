import JourneyCost.Proofs.Trip.Globe

/-!
# Requests field by field

A request without flaws has in each of its fields what the check of that field gave.  So payloads
that agree on a member give requests that agree on its field.
-/

namespace JourneyCost.Trip

/-- What the fields of a request were read from. -/
structure Request.IsReadFrom (request : Request) (fields : Fields) : Prop where
  /-- The name of the place of departure. -/
  start : optional (checkText 1 300) "start" fields = .fine request.start
  /-- The name of the destination. -/
  destination : optional (checkText 1 300) "destination" fields = .fine request.destination
  /-- The position of departure. -/
  startCoord : coordinateField "start_coord" fields = .ok (.fine request.startCoord)
  /-- The position of the destination. -/
  destCoord : coordinateField "dest_coord" fields = .ok (.fine request.destCoord)
  /-- The vehicle. -/
  vehicle : required (checkText 1 50) "vehicle_type" fields = .fine request.vehicle
  /-- Kilometres to a litre. -/
  mileage : required checkFinite "mileage" fields = .fine request.mileage
  /-- The kind of fuel. -/
  fuelKind : defaulted (checkText 1 30) "petrol" "fuel_type" fields = .fine request.fuelKind
  /-- Litres in a full tank. -/
  tankCapacity : optional checkPositive "fuel_tank_capacity" fields = .fine request.tankCapacity
  /-- The price of all fuel. -/
  fuelCost : optional checkFinite "fuel_cost" fields = .fine request.fuelCost
  /-- The price of a litre. -/
  fuelPrice : optional checkFinite "fuel_price" fields = .fine request.fuelPrice
  /-- The price of a litre under its second name. -/
  fuelRate : optional checkFinite "fuel_rate" fields = .fine request.fuelRate
  /-- The price of a litre under its third name. -/
  pricePerLitre : optional checkFinite "price_per_litre" fields = .fine request.pricePerLitre
  /-- Kilometres driven in a day. -/
  kmPerDay : required checkFinite "kilometers_per_day" fields = .fine request.kmPerDay
  /-- Allowance for a day. -/
  allowance : defaulted checkAmount 0 "da_amount_per_day" fields = .fine request.allowance
  /-- Charges at borders. -/
  border : defaulted checkAmount 0 "border_expense" fields = .fine request.border
  /-- Loading and unloading. -/
  loading : defaulted checkAmount 0 "loading_unloading" fields = .fine request.loading
  /-- Wear of tyres. -/
  tyre : defaulted checkAmount 0 "tyre" fields = .fine request.tyre
  /-- Reward for the driver. -/
  incentive : defaulted checkAmount 0 "incentive" fields = .fine request.incentive
  /-- Anything else. -/
  additional : defaulted checkAmount 0 "additional_cost" fields = .fine request.additional

namespace Checked

variable {α β : Type}

/-- A further field that was checked plays its part with its value. -/
theorem Yields.seq_of {f : Checked (α → β)} {checked : Checked α} {holds : β → Prop}
    (yields : f.Yields fun g => ∀ a, checked = .fine a → holds (g a)) :
    (f <*> checked).Yields holds := by
  intro value fine
  obtain ⟨g, a, first, second, rfl⟩ := seq_eq_fine.mp fine
  exact yields g first a second

theorem Yields.map_of {f : α → β} {checked : Checked α} {holds : β → Prop}
    (yields : ∀ a, checked = .fine a → holds (f a)) : (f <$> checked).Yields holds := by
  intro value fine
  obtain ⟨a, first, rfl⟩ := map_eq_fine.mp fine
  exact yields a first

end Checked

/-- A request is read from its payload field by field. -/
theorem Request.isReadFrom_of_read {fields : Fields} {request : Request}
    (valid : Request.read (.object fields) = .ok (.fine request)) :
    request.IsReadFrom fields := by
  obtain ⟨startCoord, readStart, valid⟩ := bind_eq_ok.mp valid
  obtain ⟨destCoord, readDest, valid⟩ := bind_eq_ok.mp valid
  obtain ⟨checked, fine, ruled⟩ := Checked.andThen_eq_fine.mp (Except.ok.inj valid)
  split at ruled
  · cases ruled
  · obtain rfl := Checked.fine.inj ruled
    suffices yields : (ofFields fields startCoord destCoord).Yields fun request =>
        request.IsReadFrom fields from yields checked fine
    iterate 18 apply Checked.Yields.seq_of
    apply Checked.Yields.map_of
    intro _ start _ destination p here q there _ vehicle _ mileage _ fuelKind _ tankCapacity
      _ fuelCost _ fuelPrice _ fuelRate _ pricePerLitre _ kmPerDay _ allowance _ border _ loading
      _ tyre _ incentive _ additional
    subst here there
    exact ⟨start, destination, readStart, readDest, vehicle, mileage, fuelKind, tankCapacity,
      fuelCost, fuelPrice, fuelRate, pricePerLitre, kmPerDay, allowance, border, loading, tyre,
      incentive, additional⟩

/-- Two payloads agree on all members but some. -/
def DifferOnlyIn (keys : List String) (p q : Fields) : Prop :=
  ∀ key, key ∉ keys → p.find? key = q.find? key

theorem DifferOnlyIn.agree {keys others : List String} {p q : Fields}
    (differ : DifferOnlyIn keys p q) (apart : ∀ key ∈ others, key ∉ keys) :
    ∀ key ∈ others, p.find? key = q.find? key :=
  fun key member => differ key (apart key member)

section

variable {α : Type} {p q : Fields} {key : String} {x y : α}

theorem eq_of_required {check : Check α} (same : p.find? key = q.find? key)
    (first : required check key p = .fine x) (second : required check key q = .fine y) :
    x = y := by
  rw [required] at first second
  rw [← same] at second
  cases found : p.find? key with
  | none =>
      rw [found] at first
      cases first
  | some value =>
      rw [found] at first second
      exact Checked.fine.inj (first.symm.trans second)

theorem eq_of_defaulted {check : Check α} {value : α} (same : p.find? key = q.find? key)
    (first : defaulted check value key p = .fine x)
    (second : defaulted check value key q = .fine y) : x = y := by
  rw [defaulted] at first second
  rw [← same] at second
  exact Checked.fine.inj (first.symm.trans second)

theorem eq_of_coordinateField {x y : Option Point} (same : p.find? key = q.find? key)
    (first : coordinateField key p = .ok (.fine x))
    (second : coordinateField key q = .ok (.fine y)) : x = y := by
  rw [coordinateField, Fields.get] at first second
  rw [← same] at second
  exact Checked.fine.inj (Except.ok.inj (first.symm.trans second))

end

/-- The members that say what fuel costs. -/
def fuelKeys : List String :=
  ["mileage", "fuel_type", "fuel_cost", "fuel_price", "fuel_rate", "price_per_litre"]

/-- The members that say what else there is to pay. -/
def extrasKeys : List String :=
  ["kilometers_per_day", "da_amount_per_day", "border_expense", "loading_unloading", "tyre",
    "incentive", "additional_cost"]

/-- Two requests name the same costs of fuel. -/
structure Request.SameFuel (r s : Request) : Prop where
  /-- Kilometres to a litre. -/
  mileage : r.mileage = s.mileage
  /-- The kind of fuel. -/
  fuelKind : r.fuelKind = s.fuelKind
  /-- The price of all fuel. -/
  fuelCost : r.fuelCost = s.fuelCost
  /-- The price of a litre. -/
  perLitre : r.perLitre = s.perLitre

/-- Two requests name the same extras, and the same days. -/
structure Request.SameExtras (r s : Request) : Prop where
  /-- Kilometres driven in a day. -/
  kmPerDay : r.kmPerDay = s.kmPerDay
  /-- Allowance for a day. -/
  allowance : r.allowance = s.allowance
  /-- Expenses that the caller names. -/
  extras : r.extras = s.extras

section

variable {p q : Fields} {r s : Request}

theorem Request.IsReadFrom.sameFuel (first : r.IsReadFrom p) (second : s.IsReadFrom q)
    (agree : ∀ key ∈ fuelKeys, p.find? key = q.find? key) : r.SameFuel s := by
  simp only [fuelKeys, List.forall_mem_cons] at agree
  obtain ⟨mileage, fuelKind, fuelCost, fuelPrice, fuelRate, pricePerLitre, -⟩ := agree
  refine ⟨eq_of_required mileage first.mileage second.mileage,
    eq_of_defaulted fuelKind first.fuelKind second.fuelKind,
    eq_of_defaulted fuelCost first.fuelCost second.fuelCost, ?_⟩
  have price := eq_of_defaulted fuelPrice first.fuelPrice second.fuelPrice
  have rate := eq_of_defaulted fuelRate first.fuelRate second.fuelRate
  have third := eq_of_defaulted pricePerLitre first.pricePerLitre second.pricePerLitre
  rw [Request.perLitre, Request.perLitre, price, rate, third]

theorem Request.IsReadFrom.sameExtras (first : r.IsReadFrom p) (second : s.IsReadFrom q)
    (agree : ∀ key ∈ extrasKeys, p.find? key = q.find? key) : r.SameExtras s := by
  simp only [extrasKeys, List.forall_mem_cons] at agree
  obtain ⟨kmPerDay, allowance, border, loading, tyre, incentive, additional, -⟩ := agree
  refine ⟨eq_of_required kmPerDay first.kmPerDay second.kmPerDay,
    eq_of_defaulted allowance first.allowance second.allowance, ?_⟩
  have border := eq_of_defaulted border first.border second.border
  have loading := eq_of_defaulted loading first.loading second.loading
  have tyre := eq_of_defaulted tyre first.tyre second.tyre
  have incentive := eq_of_defaulted incentive first.incentive second.incentive
  have additional := eq_of_defaulted additional first.additional second.additional
  rw [Request.extras, Request.extras, border, loading, tyre, incentive, additional]

end

end JourneyCost.Trip
