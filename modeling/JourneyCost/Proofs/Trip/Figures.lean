import JourneyCost.Proofs.Decimal.Finite
import JourneyCost.Proofs.Json.Standard
import JourneyCost.Proofs.Toll.Charging
import JourneyCost.Proofs.Trip.Computing

/-!
# Figures in reports

The figures of a request are finite, for they are checked, and so is a distance over which days
could be counted.  The other figures of an estimate are left open: nothing keeps a duration, a
price, the place of a plaza, or a sum from being infinite or undefined.
-/

namespace JourneyCost

open Decimal (isFinite_of_add isFinite_of_div isFinite_of_foldl_add isFinite_of_ceiling?)

theorem Expenses.total_of_aggregate {tolls fuel distanceKm daily : Float}
    {kmPerDay : Option Float} {extras : Extras} {expenses : Expenses}
    (added : aggregate tolls fuel distanceKm kmPerDay daily extras = .ok expenses) :
    expenses.total = tolls + fuel + expenses.extras := by
  obtain ⟨days, -, added⟩ := bind_eq_ok.mp added
  obtain ⟨allowance, -, made⟩ := bind_eq_ok.mp added
  obtain rfl := Except.ok.inj made
  rfl

/-- Days can only be counted over a finite distance. -/
theorem Expenses.isFinite_of_journeyDays {distanceKm : Float} {kmPerDay : Option Float} {days : Int}
    (counted : journeyDays distanceKm kmPerDay = .ok days) : distanceKm.isFinite = true := by
  unfold journeyDays at counted
  split at counted
  · cases counted
  · split at counted
    · cases counted
    · rename_i daily used
      unfold ceiling at counted
      cases found : Decimal.ceiling? (distanceKm / daily) with
      | none =>
          rw [found] at counted
          cases counted
      | some n => exact isFinite_of_div (isFinite_of_ceiling? found)

namespace Trip

section

variable {place : List String} {input : Json} {x : Float}

theorem isFinite_of_checkFinite (checked : checkFinite place input = .fine x) :
    x.isFinite = true :=
  (Checked.andThen_ite_eq_fine.mp checked).2

theorem isFinite_of_checkAmount (checked : checkAmount place input = .fine x) :
    x.isFinite = true :=
  isFinite_of_checkFinite (Checked.andThen_ite_eq_fine.mp checked).1

theorem isFinite_of_checkPositive (checked : checkPositive place input = .fine x) :
    x.isFinite = true :=
  isFinite_of_checkFinite (Checked.andThen_ite_eq_fine.mp checked).1

end

section

variable {fields : Fields} {key : String} {x : Float} {request : Request}

theorem isFinite_of_required (read : required checkFinite key fields = .fine x) :
    x.isFinite = true := by
  unfold required at read
  split at read
  · exact isFinite_of_checkFinite read
  · cases read

theorem isFinite_of_defaulted (read : defaulted checkAmount 0 key fields = .fine x) :
    x.isFinite = true := by
  unfold defaulted at read
  split at read
  · exact isFinite_of_checkAmount read
  · obtain rfl := Checked.fine.inj read
    decide +kernel

theorem isFinite_of_optional (read : optional checkPositive key fields = .fine (some x)) :
    x.isFinite = true := by
  unfold optional defaulted checkOptional at read
  split at read
  · split at read
    · cases read
    · obtain ⟨y, checked, same⟩ := Checked.map_eq_fine.mp read
      obtain rfl := Option.some.inj same
      exact isFinite_of_checkPositive checked
  · cases read

end

@[simp] theorem isStandard_amount_iff {x : Float} : (amount x).IsStandard ↔ x.isFinite = true := by
  rw [amount, Json.isStandard_float_iff, Decimal.isFinite_roundTo]

namespace Estimate

variable (e : Estimate)

/-- The figures of an estimate that nothing keeps finite. -/
def openFigures : List Float :=
  [e.route.durationHours, e.fuel.litres, e.fuel.rate, e.expenses.total] ++
    e.tolls.charges.flatMap fun charge =>
      [charge.location.latitude, charge.location.longitude, charge.distanceKm]

theorem isFinite_openFigures_iff : (∀ figure ∈ e.openFigures, figure.isFinite = true) ↔
    e.route.durationHours.isFinite = true ∧ e.fuel.litres.isFinite = true ∧
      e.fuel.rate.isFinite = true ∧ e.expenses.total.isFinite = true ∧
      ∀ charge ∈ e.tolls.charges, charge.location.latitude.isFinite = true ∧
        charge.location.longitude.isFinite = true ∧ charge.distanceKm.isFinite = true := by
  rw [openFigures, List.forall_mem_append, List.forall_mem_flatMap]
  simp [and_assoc]

theorem isStandard_summary_iff : e.summary.IsStandard ↔
    e.route.distanceKm.isFinite = true ∧ e.route.durationHours.isFinite = true ∧
      e.request.mileage.isFinite = true ∧
      ∀ litres, e.request.tankCapacity = some litres → litres.isFinite = true := by
  simp [summary]

theorem isStandard_tollDetail_iff (charge : Toll.Charge) : (tollDetail charge).IsStandard ↔
    charge.location.latitude.isFinite = true ∧ charge.location.longitude.isFinite = true ∧
      charge.fee.isFinite = true ∧ charge.distanceKm.isFinite = true := by
  simp [tollDetail]

theorem isStandard_tollPart_iff : e.tollPart.IsStandard ↔
    e.tolls.total.isFinite = true ∧ ∀ charge ∈ e.tolls.charges, (tollDetail charge).IsStandard := by
  simp [tollPart]

theorem isStandard_fuelPart_iff : e.fuelPart.IsStandard ↔
    e.fuel.litres.isFinite = true ∧ e.fuel.total.isFinite = true ∧ e.fuel.rate.isFinite = true := by
  simp only [fuelPart, Json.isStandard_object_iff, Json.isStandard_list_iff, List.forall_mem_cons,
    isStandard_amount_iff, Json.IsStandard.text]
  tauto

theorem isStandard_extrasPart_iff : e.extrasPart.IsStandard ↔
    e.request.border.isFinite = true ∧ e.request.loading.isFinite = true ∧
      e.request.tyre.isFinite = true ∧ e.request.incentive.isFinite = true ∧
      e.expenses.allowance.isFinite = true ∧ e.request.additional.isFinite = true ∧
      e.expenses.extras.isFinite = true := by
  simp [extrasPart]

theorem isStandard_finalPart_iff : e.finalPart.IsStandard ↔
    e.tolls.total.isFinite = true ∧ e.fuel.total.isFinite = true ∧
      e.expenses.extras.isFinite = true ∧ e.expenses.total.isFinite = true := by
  simp [finalPart]

theorem isStandard_report_iff_parts : e.report.IsStandard ↔
    e.summary.IsStandard ∧ e.tollPart.IsStandard ∧ e.fuelPart.IsStandard ∧
      e.extrasPart.IsStandard ∧ e.finalPart.IsStandard := by
  simp [report]

end Estimate

section

variable {planner : Planner} {sources : Sources} {desk after : Desk} {request : Request}
  {origin destination : Endpoint} {wire : Net.Wire} {library : Data.Library} {e : Estimate}
  {fields : Fields}
  (computed : Computed planner sources desk request origin destination wire library e after)

include computed

theorem Computed.isFinite_distance : e.route.distanceKm.isFinite = true :=
  Expenses.isFinite_of_journeyDays (Expenses.aggregate_eq_ok computed.expenses).1

/-- What a finite sum of everything was added up from. -/
theorem Computed.finite_of_total (finite : e.expenses.total.isFinite = true) :
    e.tolls.total.isFinite = true ∧ e.fuel.total.isFinite = true ∧
      e.expenses.extras.isFinite = true ∧ e.expenses.allowance.isFinite = true ∧
      ∀ charge ∈ e.tolls.charges, charge.fee.isFinite = true := by
  obtain ⟨plazas, -, billed⟩ := computed.tolls
  rw [Expenses.total_of_aggregate computed.expenses] at finite
  obtain ⟨both, extras⟩ := isFinite_of_add finite
  obtain ⟨tolls, fuel⟩ := isFinite_of_add both
  have sum := extras
  rw [(Expenses.aggregate_eq_ok computed.expenses).2.2] at sum
  have allowance := (isFinite_of_add (isFinite_of_add sum).1).2
  refine ⟨tolls, fuel, extras, allowance, ?_⟩
  rw [Toll.total_of_bill billed] at tolls
  exact (isFinite_of_foldl_add tolls).2

/-- A report is standard exactly if the open figures of its estimate are finite. -/
theorem Computed.isStandard_report_iff (reads : request.IsReadFrom fields) :
    e.report.IsStandard ↔ ∀ figure ∈ e.openFigures, figure.isFinite = true := by
  obtain rfl := computed.asked
  rw [e.isStandard_report_iff_parts, e.isFinite_openFigures_iff, e.isStandard_summary_iff,
    e.isStandard_tollPart_iff, e.isStandard_fuelPart_iff, e.isStandard_extrasPart_iff,
    e.isStandard_finalPart_iff]
  simp only [Estimate.isStandard_tollDetail_iff]
  constructor
  · rintro ⟨⟨-, duration, -, -⟩, ⟨-, charges⟩, ⟨litres, -, rate⟩, -, ⟨-, -, -, total⟩⟩
    refine ⟨duration, litres, rate, total, fun charge member => ?_⟩
    obtain ⟨latitude, longitude, -, distance⟩ := charges charge member
    exact ⟨latitude, longitude, distance⟩
  · rintro ⟨duration, litres, rate, total, charges⟩
    obtain ⟨tolls, fuel, extras, allowance, fees⟩ := computed.finite_of_total total
    refine ⟨⟨computed.isFinite_distance, duration, isFinite_of_required reads.mileage, ?_⟩,
      ⟨tolls, fun charge member => ?_⟩, ⟨litres, fuel, rate⟩, ?_, tolls, fuel, extras, total⟩
    · intro capacity full
      have read := reads.tankCapacity
      rw [full] at read
      exact isFinite_of_optional read
    · obtain ⟨latitude, longitude, distance⟩ := charges charge member
      exact ⟨latitude, longitude, fees charge member, distance⟩
    · exact ⟨isFinite_of_defaulted reads.border, isFinite_of_defaulted reads.loading,
        isFinite_of_defaulted reads.tyre, isFinite_of_defaulted reads.incentive, allowance,
        isFinite_of_defaulted reads.additional, extras⟩

end

end Trip

end JourneyCost
