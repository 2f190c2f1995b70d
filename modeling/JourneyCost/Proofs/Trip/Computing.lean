import JourneyCost.Proofs.Json.Path
import JourneyCost.Proofs.Trip.Fields
import JourneyCost.Proofs.Work

/-!
# Parts of an estimate

An estimate is put together from a route, tolls, fuel and expenses.  Each part comes from its own
fields of the request.  So two requests between the same ends, made to one desk, have the parts in
common whose fields they have in common.
-/

namespace JourneyCost

open Net Map Data

/-- Expenses by their parts; only their total depends on tolls and fuel. -/
theorem Expenses.aggregate_eq_ok {tolls fuel distanceKm daily : Float} {kmPerDay : Option Float}
    {extras : Extras} {expenses : Expenses}
    (added : aggregate tolls fuel distanceKm kmPerDay daily extras = .ok expenses) :
    journeyDays distanceKm kmPerDay = .ok expenses.days ∧
      allowanceFor daily expenses.days = .ok expenses.allowance ∧
      expenses.extras = extras.border + extras.loading + extras.tyre + extras.incentive +
        expenses.allowance + extras.additional := by
  obtain ⟨days, counted, added⟩ := bind_eq_ok.mp added
  obtain ⟨allowance, allowed, made⟩ := bind_eq_ok.mp added
  obtain rfl := Except.ok.inj made
  exact ⟨counted, allowed, rfl⟩

namespace Trip

/-- The label of an endpoint. -/
def labelOf : Endpoint → String
  | .named name => name
  | .position p => label p

/-- A payload selects the ends of a journey. -/
def Selects (payload : Fields) (origin destination : Endpoint) : Prop :=
  ∃ request start stop, Request.read (.object payload) = .ok (.fine request) ∧
    ends request = .ok ((origin, start), (destination, stop))

theorem labels_of_ends {request : Request} {origin destination : Endpoint} {start stop : String}
    (given : ends request = .ok ((origin, start), (destination, stop))) :
    start = labelOf origin ∧ stop = labelOf destination := by
  unfold ends at given
  split at given
  · cases given
    exact ⟨rfl, rfl⟩
  · cases given
    exact ⟨rfl, rfl⟩
  · cases given

/-- The members that say where a journey begins and ends. -/
def endKeys : List String := ["start", "destination", "start_coord", "dest_coord"]

/-- Payloads that agree on the ends of a journey select the same ones. -/
theorem Selects.of_agree {p q : Fields} {origin destination : Endpoint} {request : Request}
    (selects : Selects p origin destination)
    (read : Request.read (.object q) = .ok (.fine request))
    (agree : ∀ key ∈ endKeys, p.find? key = q.find? key) : Selects q origin destination := by
  obtain ⟨selected, start, stop, fine, given⟩ := selects
  have first := Request.isReadFrom_of_read fine
  have second := Request.isReadFrom_of_read read
  simp only [endKeys, List.forall_mem_cons] at agree
  obtain ⟨name, otherName, coord, otherCoord, -⟩ := agree
  have name := eq_of_defaulted name first.start second.start
  have otherName := eq_of_defaulted otherName first.destination second.destination
  have coord := eq_of_coordinateField coord first.startCoord second.startCoord
  have otherCoord := eq_of_coordinateField otherCoord first.destCoord second.destCoord
  refine ⟨request, start, stop, read, ?_⟩
  rw [← given, ends, ends, name, otherName, coord, otherCoord]

/-- An estimate that was computed, by its parts, with the wire after the route was found and the
library after the plazas were loaded. -/
structure Computed (planner : Planner) (sources : Sources) (desk : Desk) (request : Request)
    (origin destination : Endpoint) (wire : Wire) (library : Library) (estimate : Estimate)
    (after : Desk) : Prop where
  /-- It is for the request. -/
  asked : estimate.request = request
  /-- The place of departure has its label. -/
  startLabel : estimate.origin = labelOf origin
  /-- So has the destination. -/
  stopLabel : estimate.destination = labelOf destination
  /-- The route was found between the ends. -/
  route : (Route.resolve planner.client origin destination).run desk.wire =
    (.ok estimate.route, wire)
  /-- The tolls are those of plazas that were loaded. -/
  tolls : ∃ plazas,
    (Library.loadPlazas sources.files sources.tollPath).run desk.library = (.ok plazas, library) ∧
    Toll.bill estimate.route.points planner.threshold (VehicleClass.ofText request.vehicle).key
      plazas = .ok estimate.tolls
  /-- Then fuel was priced. -/
  fuel : (fuelFor planner sources request estimate.route).run ⟨wire, library⟩ =
    (.ok estimate.fuel, after)
  /-- The expenses were added up. -/
  expenses : Expenses.aggregate estimate.tolls.total estimate.fuel.total estimate.route.distanceKm
    (some request.kmPerDay) request.allowance request.extras = .ok estimate.expenses

section

variable {planner : Planner} {sources : Sources} {desk after after' : Desk} {r s : Request}
  {origin destination : Endpoint} {wire wire' : Wire} {library library' : Library}
  {e e' : Estimate} {α β : Type}

theorem run_onWire_eq_ok {work : Work Wire α} {value : α}
    (ran : (Desk.onWire work).run desk = (.ok value, after)) :
    ∃ wire, work.run desk.wire = (.ok value, wire) ∧ after = { desk with wire := wire } := by
  obtain ⟨outcome, rfl⟩ := Prod.mk.inj ran
  exact ⟨_, Prod.ext outcome rfl, rfl⟩

theorem run_onLibrary_eq_ok {work : Work Library α} {value : α}
    (ran : (Desk.onLibrary work).run desk = (.ok value, after)) :
    ∃ library, work.run desk.library = (.ok value, library) ∧
      after = { desk with library := library } := by
  obtain ⟨outcome, rfl⟩ := Prod.mk.inj ran
  exact ⟨_, Prod.ext outcome rfl, rfl⟩

theorem ends_of_run (ran : (compute planner sources r).run desk = (.ok e, after)) :
    ∃ origin start destination stop, ends r = .ok ((origin, start), (destination, stop)) := by
  obtain ⟨-, -, ran⟩ := Work.run_ofExcept_bind_eq_ok.mp ran
  obtain ⟨⟨⟨origin, start⟩, ⟨destination, stop⟩⟩, ended, -⟩ := Work.run_ofExcept_bind_eq_ok.mp ran
  exact ⟨origin, start, destination, stop, ended⟩

theorem computed_of_run {start stop : String}
    (given : ends r = .ok ((origin, start), (destination, stop)))
    (ran : (compute planner sources r).run desk = (.ok e, after)) :
    ∃ wire library, Computed planner sources desk r origin destination wire library e after := by
  obtain ⟨-, -, ran⟩ := Work.run_ofExcept_bind_eq_ok.mp ran
  obtain ⟨both, ended, ran⟩ := Work.run_ofExcept_bind_eq_ok.mp ran
  obtain rfl := Except.ok.inj (given.symm.trans ended)
  obtain ⟨route, desk₁, found, ran⟩ := Work.run_bind_eq_ok.mp ran
  obtain ⟨wire, resolved, rfl⟩ := run_onWire_eq_ok found
  obtain ⟨tolls, desk₂, billed, ran⟩ := Work.run_bind_eq_ok.mp ran
  obtain ⟨plazas, desk₃, loaded, made⟩ := Work.run_bind_eq_ok.mp billed
  obtain ⟨library, read, rfl⟩ := run_onLibrary_eq_ok loaded
  obtain ⟨bill, rfl⟩ := Prod.mk.inj made
  obtain ⟨fuel, desk₄, priced, ran⟩ := Work.run_bind_eq_ok.mp ran
  obtain ⟨expenses, added, ran⟩ := Work.run_ofExcept_bind_eq_ok.mp ran
  obtain ⟨made, rfl⟩ := Prod.mk.inj ran
  obtain rfl := Except.ok.inj made
  obtain ⟨startLabel, stopLabel⟩ := labels_of_ends given
  exact ⟨wire, library, rfl, startLabel, stopLabel, resolved, ⟨plazas, read, bill⟩, priced, added⟩

theorem run_estimate_eq_ok (ran : (planner.estimate sources r).run desk = (.ok e, after)) :
    (compute planner sources r).run desk = (.ok e, after) := by
  rw [Planner.estimate, Work.run_tryCatch] at ran
  split at ran
  · rename_i computed
    rw [computed, ran]
  · cases (Prod.mk.inj ran).1

/-- Work that leaves the wire as it was. -/
def KeepsWire (work : Work Desk α) : Prop := ∀ desk, (work.run desk).2.wire = desk.wire

theorem KeepsWire.bind {work : Work Desk α} {next : α → Work Desk β} (first : KeepsWire work)
    (rest : ∀ value, KeepsWire (next value)) : KeepsWire (work >>= next) := by
  let Same (desk after : Desk) : Prop := after.wire = desk.wire
  have : Trans Same Same Same := ⟨fun begun ended => ended.trans begun⟩
  change Work.Within Same (work >>= next)
  exact Work.Within.bind first rest

theorem keepsWire_ofExcept (result : Except Fault α) :
    KeepsWire (MonadExcept.ofExcept result : Work Desk α) := by
  intro desk
  rw [Work.ofExcept_eq, Work.run_ofExcept]

theorem keepsWire_fuelFor (route : Route) : KeepsWire (fuelFor planner sources r route) := by
  refine (keepsWire_ofExcept _).bind fun litres => ?_
  simp only
  split
  · refine KeepsWire.bind ?_ fun prices => keepsWire_ofExcept _
    exact fun desk => rfl
  · exact KeepsWire.bind (fun desk => rfl) fun prices => keepsWire_ofExcept _

theorem Computed.wire_eq
    (computed : Computed planner sources desk r origin destination wire library e after) :
    after.wire = wire := by
  have kept : ((fuelFor planner sources r e.route).run ⟨wire, library⟩).2.wire = wire :=
    keepsWire_fuelFor e.route ⟨wire, library⟩
  rw [computed.fuel] at kept
  exact kept

section

variable (first : Computed planner sources desk r origin destination wire library e after)
  (second : Computed planner sources desk s origin destination wire' library' e' after')

include first second

theorem Computed.sameRoute : e'.route = e.route ∧ wire' = wire := by
  have same := second.route.symm.trans first.route
  obtain ⟨found, rfl⟩ := Prod.mk.inj same
  exact ⟨Except.ok.inj found, rfl⟩

theorem Computed.sameLibrary : library' = library := by
  obtain ⟨plazas, loaded, -⟩ := first.tolls
  obtain ⟨others, again, -⟩ := second.tolls
  exact (Prod.mk.inj (again.symm.trans loaded)).2

theorem Computed.sameWire : after'.wire = after.wire := by
  rw [first.wire_eq, second.wire_eq, (first.sameRoute second).2]

theorem Computed.sameTolls (vehicle : r.vehicle = s.vehicle) : e'.tolls = e.tolls := by
  obtain ⟨plazas, loaded, bill⟩ := first.tolls
  obtain ⟨others, again, otherBill⟩ := second.tolls
  obtain rfl := Except.ok.inj (Prod.mk.inj (again.symm.trans loaded)).1
  rw [(first.sameRoute second).1, ← vehicle, bill] at otherBill
  exact (Except.ok.inj otherBill).symm

theorem Computed.sameFuel (fuel : r.SameFuel s) : e'.fuel = e.fuel := by
  have priced := second.fuel
  have same : fuelFor planner sources s e'.route = fuelFor planner sources r e.route := by
    rw [fuelFor, fuelFor, fuel.mileage, fuel.fuelKind, fuel.fuelCost, fuel.perLitre,
      (first.sameRoute second).1]
  rw [same, (first.sameRoute second).2, first.sameLibrary second, first.fuel] at priced
  exact (Except.ok.inj (Prod.mk.inj priced).1).symm

theorem Computed.sameExpenses (extras : r.SameExtras s) :
    e'.expenses.days = e.expenses.days ∧ e'.expenses.allowance = e.expenses.allowance ∧
      e'.expenses.extras = e.expenses.extras := by
  obtain ⟨counted, allowed, sum⟩ := Expenses.aggregate_eq_ok first.expenses
  obtain ⟨counted', allowed', sum'⟩ := Expenses.aggregate_eq_ok second.expenses
  rw [(first.sameRoute second).1, ← extras.kmPerDay, counted] at counted'
  have days := (Except.ok.inj counted').symm
  rw [days, ← extras.allowance, allowed] at allowed'
  have allowance := (Except.ok.inj allowed').symm
  refine ⟨days, allowance, ?_⟩
  rw [sum', sum, allowance, extras.extras]

end

end

end Trip

end JourneyCost
