import JourneyCost.Proofs.Data.Faithful
import JourneyCost.Proofs.Route.Repeating
import JourneyCost.Trip.Planner

/-!
# Estimates made twice

An estimate takes nothing from a desk but the replies to come, the places that were found, and what
the data sets hold.  Which data sets were read before makes no difference, and the places make none
to a journey between two positions.
-/

namespace JourneyCost.Trip

open Net Data
open Work (Respects)

/-- Desks with twin wires and libraries that hold what the files hold. -/
structure Desk.Twin (files : Files) (shared : Prop) (keeps : Bool) (before other : List Call)
    (left right : Desk) : Prop where
  /-- The wires are twins. -/
  wires : Wire.Twin shared keeps before other left.wire right.wire
  /-- One library holds what the files hold. -/
  first : left.library.Faithful (· = files)
  /-- So does the other. -/
  second : right.library.Faithful (· = files)

variable {files : Files} {shared : Prop} {keeps : Bool} {before other : List Call} {α : Type}

theorem respects_onWire {work : Work Wire α}
    (respects : Respects (Wire.Twin shared keeps before other) work) :
    Respects (Desk.Twin files shared keeps before other) (Desk.onWire work) :=
  respects.onPart (fun _ _ twin => twin.wires)
    fun _ _ _ _ twin wires => ⟨wires, twin.first, twin.second⟩

/-- Work that reads from the files gives the same in any two libraries that hold what they hold. -/
theorem respects_onLibrary {work : Work Library α} {reading : Files → Except Fault α}
    (reads : Library.Reads (· = files) work reading) :
    Respects (Desk.Twin files shared keeps before other) (Desk.onLibrary work) := by
  have inside : Respects (fun left right : Library =>
      left.Faithful (· = files) ∧ right.Faithful (· = files)) work := by
    rintro left right ⟨first, second⟩
    obtain ⟨after, here, rfl, outcome⟩ := reads left first
    obtain ⟨later, there, rfl, same⟩ := reads right second
    exact ⟨outcome.trans same.symm, after, later⟩
  exact inside.onPart (fun _ _ twin => ⟨twin.first, twin.second⟩)
    fun _ _ _ _ twin libraries => ⟨twin.wires, libraries.1, libraries.2⟩

theorem respects_plazas (path : String) :
    Respects (Desk.Twin files shared keeps before other)
      (Desk.onLibrary (Library.loadPlazas files path)) := by
  have reads : Library.Reads (· = files) (Library.loadPlazas files path) fun files =>
      plazasIn files path := by
    apply Library.reads_loadPlazas
    rfl
  exact respects_onLibrary reads

theorem respects_prices (path kind : String) :
    Respects (Desk.Twin files shared keeps before other)
      (Desk.onLibrary (Library.loadPrices files path kind)) := by
  have reads : Library.Reads (· = files) (Library.loadPrices files path kind) fun files =>
      pricesIn files path (fuelKind kind) := by
    apply Library.reads_loadPrices
    rfl
  exact respects_onLibrary reads

theorem respects_liftExcept (result : Except Fault α) :
    Respects (Desk.Twin files shared keeps before other)
      (MonadExcept.ofExcept result : Work Desk α) := by
  cases result with
  | ok value => exact Work.respects_pure value
  | error fault => exact Work.respects_fail fault

/-- The ends of a journey between two positions. -/
theorem positions_of_ends {request : Request} {origin destination : Endpoint × String}
    (given : ends request = .ok (origin, destination)) (coordinates : request.usesCoordinates) :
    ∃ p q, origin.1 = .position p ∧ destination.1 = .position q := by
  obtain ⟨fromStart, fromDest⟩ := Bool.and_eq_true_iff.mp coordinates
  obtain ⟨p, start⟩ := Option.isSome_iff_exists.mp fromStart
  obtain ⟨q, dest⟩ := Option.isSome_iff_exists.mp fromDest
  simp only [ends, start, dest] at given
  obtain ⟨rfl, rfl⟩ := Prod.mk.inj (Except.ok.inj given)
  exact ⟨p, q, rfl, rfl⟩

variable {sources : Sources} {request : Request}

theorem respects_tollsOn (planner : Planner) (route : Route) :
    Respects (Desk.Twin sources.files shared keeps before other)
      (tollsOn planner sources request route) :=
  (respects_plazas sources.tollPath).bind fun _ => Work.respects_ofExcept _

theorem respects_fuelFor (planner : Planner) (route : Route) :
    Respects (Desk.Twin sources.files shared keeps before other)
      (fuelFor planner sources request route) := by
  refine (respects_liftExcept _).bind fun litres => ?_
  simp only
  split
  · exact (respects_prices sources.fuelPath request.fuelKind).bind
      fun prices => respects_liftExcept _
  · exact (Work.respects_pure []).bind fun prices => respects_liftExcept _

theorem respects_compute (planner : Planner) (settled : shared ∨ request.usesCoordinates = true) :
    Respects (Desk.Twin sources.files shared keeps before other)
      (compute planner sources request) := by
  refine Work.respects_ofExcept_bind fun _ _ => ?_
  refine Work.respects_ofExcept_bind fun both given => ?_
  have positions := settled.imp_right fun coordinates => positions_of_ends given coordinates
  refine (respects_onWire (Route.respects_resolve planner.client positions)).bind fun route => ?_
  refine (respects_tollsOn planner route).bind fun tolls => ?_
  refine (respects_fuelFor planner route).bind fun fuel => ?_
  exact Work.respects_ofExcept_bind fun expenses _ => Work.respects_pure _

theorem respects_estimate (sources : Sources) (planner : Planner)
    (settled : shared ∨ request.usesCoordinates = true) :
    Respects (Desk.Twin sources.files shared keeps before other)
      (planner.estimate sources request) :=
  (respects_compute planner settled).mended fun _ => Work.respects_fail _

end JourneyCost.Trip
