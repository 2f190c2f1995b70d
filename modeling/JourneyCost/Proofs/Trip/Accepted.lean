import JourneyCost.Proofs.Data.Loading
import JourneyCost.Proofs.Decimal.Order
import JourneyCost.Proofs.Route.Outcome
import JourneyCost.Proofs.Toll.Isolation
import JourneyCost.Trip.Planner

/-!
# Figures that are accepted

The mileage and the daily distance of a request are checked before anything else is done, and again
where litres and days are counted from them.  Figures that pass the first check pass the later ones,
and no other part of an estimate finds fault with the request.
-/

namespace JourneyCost

open Net Map Data

variable {fault : Fault}

theorem isInvalidInput_of_isUnreadable (unreadable : fault.isUnreadable = true) :
    fault.isInvalidInput = false := by
  cases fault <;> first | rfl | cases unreadable

theorem Json.isInvalidInput_of_toNumber {value : Json} (failed : value.toNumber = .error fault) :
    fault.isInvalidInput = false := by
  rcases toNumber_eq_error failed with ⟨rfl, -⟩ | unreadable
  · rfl
  · exact isInvalidInput_of_isUnreadable unreadable

theorem Data.avoids_loadPlazas (files : Files) (path : String) :
    Work.Avoids Fault.isInvalidInput (Library.loadPlazas files path) := by
  intro library fault failed
  cases kept : library.plazas.find? path with
  | some plazas =>
      rw [run_loadPlazas_of_kept kept] at failed
      cases failed
  | none =>
      rw [run_loadPlazas kept, tollPlazas_eq_error_iff] at failed
      obtain ⟨rfl, -⟩ := failed
      rfl

theorem Fuel.isInvalidInput_of_entries {kind : String} {document : Json}
    (failed : entries kind document = .error fault) : fault.isInvalidInput = false := by
  cases document with
  | object states =>
      obtain ⟨rfl, -⟩ := entries_eq_error_iff.mp failed
      rfl
  | null | bool | int | float | text | list => cases failed

theorem Data.avoids_loadPrices (files : Files) (path kind : String) :
    Work.Avoids Fault.isInvalidInput (Library.loadPrices files path kind) := by
  intro library fault failed
  cases kept : library.prices.find? (path, fuelKind kind) with
  | some prices =>
      rw [run_loadPrices_of_kept kept] at failed
      cases failed
  | none =>
      rw [run_loadPrices kept] at failed
      exact Fuel.isInvalidInput_of_entries failed

theorem Toll.isInvalidInput_of_bill {route : List Point} {threshold : Float} {category : String}
    {plazas : List Plaza} (failed : bill route threshold category plazas = .error fault) :
    fault.isInvalidInput = false := by
  obtain ⟨rfl, -⟩ := bill_eq_error_iff.mp failed
  rfl

theorem Fuel.isInvalidInput_of_quote {pricing : Pricing} {offer : Offer} {prices : List Entry}
    {litres : Float} (failed : quote pricing offer prices litres = .error fault) :
    fault.isInvalidInput = false := by
  unfold quote at failed
  split at failed
  · cases failed
  · split at failed
    · cases failed
    · split at failed
      · cases failed
      · rcases bind_eq_error.mp failed with unread | ⟨price, -, made⟩
        · exact Json.isInvalidInput_of_toNumber unread
        · cases made

theorem Expenses.isInvalidInput_of_ceiling {x : Float} (failed : ceiling x = .error fault) :
    fault.isInvalidInput = false := by
  unfold ceiling at failed
  split at failed
  · cases failed
  · obtain rfl := Except.error.inj failed
    split <;> rfl

theorem Expenses.isInvalidInput_of_allowanceFor {daily : Float} {days : Int}
    (failed : allowanceFor daily days = .error fault) : fault.isInvalidInput = false := by
  unfold allowanceFor at failed
  cases counted : Decimal.floatOfInt? days with
  | none =>
      rw [counted] at failed
      obtain rfl := Except.error.inj failed
      rfl
  | some count =>
      rw [counted] at failed
      cases failed

namespace Trip

variable {request : Request}

theorem checkFigures_eq_ok_iff :
    checkFigures request = .ok () ↔ ¬ request.mileage ≤ 0 ∧ ¬ request.kmPerDay ≤ 0 := by
  unfold checkFigures
  split
  · simp [*]
  · split <;> simp [*]

theorem checkFigures_of_pos (mileage : 0 < request.mileage) (kmPerDay : 0 < request.kmPerDay) :
    checkFigures request = .ok () :=
  checkFigures_eq_ok_iff.mpr ⟨Decimal.not_le_zero_of_pos mileage,
    Decimal.not_le_zero_of_pos kmPerDay⟩

/-- Litres can be counted with a mileage that was accepted. -/
theorem litresFor_of_accepted (accepted : checkFigures request = .ok ()) (distanceKm : Float) :
    Fuel.litresFor distanceKm (some request.mileage) = .ok (distanceKm / request.mileage) :=
  if_neg (checkFigures_eq_ok_iff.mp accepted).1

/-- So can days with a daily distance that was accepted. -/
theorem journeyDays_of_accepted (accepted : checkFigures request = .ok ()) (distanceKm : Float) :
    Expenses.journeyDays distanceKm (some request.kmPerDay) =
      (Expenses.ceiling (distanceKm / request.kmPerDay)).map (max 1) :=
  if_neg (checkFigures_eq_ok_iff.mp accepted).2

theorem isInvalidInput_of_journeyDays (accepted : checkFigures request = .ok ())
    {distanceKm : Float}
    (failed : Expenses.journeyDays distanceKm (some request.kmPerDay) = .error fault) :
    fault.isInvalidInput = false := by
  rw [journeyDays_of_accepted accepted] at failed
  cases counted : Expenses.ceiling (distanceKm / request.kmPerDay) with
  | ok days =>
      rw [counted] at failed
      cases failed
  | error cause =>
      rw [counted] at failed
      obtain rfl := Except.error.inj failed
      exact Expenses.isInvalidInput_of_ceiling counted

theorem isInvalidInput_of_aggregate (accepted : checkFigures request = .ok ())
    {tolls fuel distanceKm daily : Float} {extras : Extras}
    (failed : Expenses.aggregate tolls fuel distanceKm (some request.kmPerDay) daily extras =
      .error fault) : fault.isInvalidInput = false := by
  rcases bind_eq_error.mp failed with uncounted | ⟨days, -, failed⟩
  · exact isInvalidInput_of_journeyDays accepted uncounted
  · rcases bind_eq_error.mp failed with unallowed | ⟨allowance, -, made⟩
    · exact Expenses.isInvalidInput_of_allowanceFor unallowed
    · cases made

variable (planner : Planner) (sources : Sources)

theorem avoids_ends (request : Request) :
    Work.Avoids Fault.isInvalidInput (Work.ofExcept (ends request) : Work Desk _) := by
  refine Work.avoids_ofExcept fun fault failed => ?_
  unfold ends at failed
  split at failed
  · cases failed
  · cases failed
  · obtain rfl := Except.error.inj failed
    rfl

theorem avoids_tollsOn (request : Request) (route : Route) :
    Work.Avoids Fault.isInvalidInput (tollsOn planner sources request route) := by
  refine (Data.avoids_loadPlazas _ _).onPart.bind fun plazas => ?_
  exact Work.avoids_ofExcept fun _ => Toll.isInvalidInput_of_bill

theorem avoids_fuelFor (accepted : checkFigures request = .ok ()) (route : Route) :
    Work.Avoids Fault.isInvalidInput (fuelFor planner sources request route) := by
  unfold fuelFor Fuel.estimate
  simp only [Work.ofExcept_eq, litresFor_of_accepted accepted]
  refine Work.Avoids.bind (Work.avoids_pure _ _) fun litres => ?_
  split
  · refine (Data.avoids_loadPrices _ _ _).onPart.bind fun prices => ?_
    exact Work.avoids_ofExcept fun _ => Fuel.isInvalidInput_of_quote
  · refine (Work.avoids_pure _ _).bind fun prices => ?_
    exact Work.avoids_ofExcept fun _ => Fuel.isInvalidInput_of_quote

/-- After the first check nothing finds fault with the request. -/
theorem avoids_compute (accepted : checkFigures request = .ok ()) :
    Work.Avoids Fault.isInvalidInput (compute planner sources request) := by
  unfold compute
  refine (Work.avoids_ofExcept fun fault failed => ?_).bind fun _ => ?_
  · rw [accepted] at failed
    cases failed
  refine (avoids_ends request).bind fun ⟨origin, destination⟩ => ?_
  refine (Route.avoids_resolve _ _ _).onPart.bind fun route => ?_
  refine (avoids_tollsOn planner sources request route).bind fun tolls => ?_
  refine (avoids_fuelFor planner sources accepted route).bind fun fuel => ?_
  refine (Work.avoids_ofExcept fun _ => isInvalidInput_of_aggregate accepted).bind
    fun expenses => ?_
  exact Work.avoids_pure _ _

theorem isInvalidInput_asTripFault (fault : Fault) :
    (asTripFault fault).isInvalidInput = fault.isInvalidInput := by
  cases fault <;> rfl

/-- An estimate finds fault with the figures of the request before it has done anything, or
never. -/
theorem run_estimate_of_isInvalidInput {desk after : Desk}
    (failed : (planner.estimate sources request).run desk = (.error fault, after))
    (blamed : fault.isInvalidInput = true) :
    checkFigures request ≠ .ok () ∧ after = desk := by
  have computed : ∃ cause, (compute planner sources request).run desk = (.error cause, after) ∧
      cause.isInvalidInput = true := by
    rw [Planner.estimate, Work.run_tryCatch] at failed
    rcases ran : (compute planner sources request).run desk with ⟨cause | estimate, between⟩
    · rw [ran] at failed
      obtain ⟨same, rfl⟩ := Prod.mk.inj failed
      obtain rfl := Except.error.inj same
      exact ⟨cause, rfl, (isInvalidInput_asTripFault cause).symm.trans blamed⟩
    · rw [ran] at failed
      cases (Prod.mk.inj failed).1
  obtain ⟨cause, ran, found⟩ := computed
  have refused : checkFigures request ≠ .ok () := by
    intro accepted
    have spared := avoids_compute planner sources accepted desk cause (congrArg Prod.fst ran)
    exact Bool.false_ne_true (spared.symm.trans found)
  refine ⟨refused, ?_⟩
  rw [compute, Work.run_bind, Work.run_ofExcept] at ran
  cases checked : checkFigures request with
  | ok => exact absurd checked refused
  | error first =>
      rw [checked] at ran
      exact (Prod.mk.inj ran).2.symm

end Trip

end JourneyCost
