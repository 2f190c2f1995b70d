import JourneyCost.Proofs.Decimal.Order
import JourneyCost.Proofs.Fault
import JourneyCost.Trip.Planner

/-!
# Positions on the globe

However a request writes its positions, each one is checked coordinate by coordinate before the
request is taken.  So the ends between which a route is looked for lie on the globe.
-/

namespace JourneyCost.Trip

open Data Net

/-- A position has a latitude and a longitude. -/
structure OnGlobe (p : Point) : Prop where
  /-- The latitude is between the poles. -/
  latitude : p.latitude.isFinite = true ∧ -90 ≤ p.latitude ∧ p.latitude ≤ 90
  /-- The longitude is half a turn at most. -/
  longitude : p.longitude.isFinite = true ∧ -180 ≤ p.longitude ∧ p.longitude ≤ 180

namespace Checked

variable {α β : Type}

/-- The value of a check without flaws. -/
def value? : Checked α → Option α
  | fine value => some value
  | flawed _ => none

theorem value?_eq_some {checked : Checked α} {value : α} :
    checked.value? = some value ↔ checked = .fine value := by
  cases checked <;> simp [value?]

theorem map_eq_fine {f : α → β} {checked : Checked α} {value : β} :
    f <$> checked = .fine value ↔ ∃ a, checked = .fine a ∧ f a = value := by
  cases checked with
  | fine a => simp [Functor.map, map]
  | flawed flaws => simp [Functor.map, map]

theorem seq_eq_fine {f : Checked (α → β)} {checked : Checked α} {value : β} :
    f <*> checked = .fine value ↔ ∃ g a, f = .fine g ∧ checked = .fine a ∧ g a = value := by
  cases f <;> cases checked <;> simp [Seq.seq, apply]

theorem andThen_eq_fine {checked : Checked α} {check : α → Checked β} {value : β} :
    checked.andThen check = .fine value ↔ ∃ a, checked = .fine a ∧ check a = .fine value := by
  cases checked <;> simp [andThen]

/-- A further condition takes nothing but what it holds of. -/
theorem andThen_ite_eq_fine {checked : Checked α} {holds : α → Prop} [DecidablePred holds]
    {flaws : List Flaw} {value : α} :
    (checked.andThen fun a => if holds a then .fine a else .flawed flaws) = .fine value ↔
      checked = .fine value ∧ holds value := by
  rw [andThen_eq_fine]
  constructor
  · rintro ⟨a, first, taken⟩
    split at taken
    · rename_i held
      obtain rfl := fine.inj taken
      exact ⟨first, held⟩
    · cases taken
  · rintro ⟨first, held⟩
    exact ⟨value, first, if_pos held⟩

/-- What is true of the value of a check without flaws. -/
def Yields (checked : Checked α) (holds : α → Prop) : Prop :=
  ∀ value, checked = .fine value → holds value

/-- A further field plays no part in what is true whatever its value. -/
theorem Yields.seq {f : Checked (α → β)} {checked : Checked α} {holds : β → Prop}
    (yields : f.Yields fun g => ∀ a, holds (g a)) : (f <*> checked).Yields holds := by
  intro value fine
  obtain ⟨g, a, first, -, rfl⟩ := seq_eq_fine.mp fine
  exact yields g first a

end Checked

theorem bounds_of_checkDegrees {bound : Nat} {place : List String} {input : Json} {x : Float}
    (checked : checkDegrees bound place input = .fine x) :
    -Float.ofNat bound ≤ x ∧ x ≤ Float.ofNat bound := by
  obtain ⟨y, -, checked⟩ := Checked.andThen_eq_fine.mp checked
  split at checked
  · cases checked
  · split at checked
    · cases checked
    · rename_i notAbove notBelow
      obtain rfl := Checked.fine.inj checked
      exact ⟨by simpa using notBelow, by simpa using notAbove⟩

theorem onGlobe_of_checkCoordinate {read : Except CoordinateFlaw RawCoordinate}
    {place : List String} {input : Json} {p : Point}
    (checked : checkCoordinate read place input = .fine p) : OnGlobe p := by
  cases read with
  | error flaw => cases checked
  | ok raw =>
      obtain ⟨g, longitude, named, east, made⟩ := Checked.seq_eq_fine.mp checked
      obtain ⟨latitude, north, rfl⟩ := Checked.map_eq_fine.mp named
      obtain rfl := made
      obtain ⟨south, north⟩ := bounds_of_checkDegrees north
      obtain ⟨west, east⟩ := bounds_of_checkDegrees east
      refine ⟨⟨?_, south, north⟩, ?_, west, east⟩
      · exact Decimal.isFinite_of_le_of_le south north (by decide +kernel) (by decide +kernel)
      · exact Decimal.isFinite_of_le_of_le west east (by decide +kernel) (by decide +kernel)

/-- A field that may be missing holds a position on the globe if it holds one. -/
theorem onGlobe_of_coordinateField {key : String} {fields : Fields} {p : Point}
    (read : coordinateField key fields = .ok (.fine (some p))) : OnGlobe p := by
  unfold coordinateField at read
  split at read
  · cases read
  · obtain ⟨raw, -, made⟩ := bind_eq_ok.mp read
    obtain ⟨q, checked, same⟩ := Checked.map_eq_fine.mp (Except.ok.inj made)
    obtain rfl := Option.some.inj same
    exact onGlobe_of_checkCoordinate checked

/-- A request without flaws has the positions that were read for it. -/
theorem positions_of_ofFields {fields : Fields} {start dest : Checked (Option Point)}
    {request : Request} (fine : Request.ofFields fields start dest = .fine request) :
    start = .fine request.startCoord ∧ dest = .fine request.destCoord := by
  suffices yields : (Request.ofFields fields start dest).Yields fun request =>
      start = .fine request.startCoord ∧ dest = .fine request.destCoord from yields request fine
  iterate 15 apply Checked.Yields.seq
  intro make withDest
  obtain ⟨make, q, withStart, readDest, rfl⟩ := Checked.seq_eq_fine.mp withDest
  obtain ⟨make, p, withNames, readStart, rfl⟩ := Checked.seq_eq_fine.mp withStart
  obtain ⟨make, destination, withName, -, rfl⟩ := Checked.seq_eq_fine.mp withNames
  obtain ⟨name, -, rfl⟩ := Checked.map_eq_fine.mp withName
  intros
  exact ⟨readStart, readDest⟩

/-- The positions of a valid request lie on the globe. -/
theorem onGlobe_of_read {payload : Json} {request : Request}
    (valid : Request.read payload = .ok (.fine request)) :
    (∀ p, request.startCoord = some p → OnGlobe p) ∧
      ∀ q, request.destCoord = some q → OnGlobe q := by
  cases payload with
  | object fields =>
      obtain ⟨start, readStart, valid⟩ := bind_eq_ok.mp valid
      obtain ⟨dest, readDest, valid⟩ := bind_eq_ok.mp valid
      obtain ⟨checked, fine, ruled⟩ := Checked.andThen_eq_fine.mp (Except.ok.inj valid)
      split at ruled
      · cases ruled
      · obtain rfl := Checked.fine.inj ruled
        obtain ⟨rfl, rfl⟩ := positions_of_ofFields fine
        constructor
        · rintro p given
          rw [given] at readStart
          exact onGlobe_of_coordinateField readStart
        · rintro q given
          rw [given] at readDest
          exact onGlobe_of_coordinateField readDest
  | null | bool | int | float | text | list => cases valid

/-- A valid request that gives both ends as positions has a route looked for between them, and both
lie on the globe. -/
theorem ends_onGlobe {payload : Json} {request : Request}
    (valid : Request.read payload = .ok (.fine request))
    (coordinates : request.usesCoordinates = true) :
    ∃ p q, OnGlobe p ∧ OnGlobe q ∧
      ends request = .ok ((.position p, label p), (.position q, label q)) ∧
      ∀ (planner : Planner) (sources : Sources), ∃ rest : Route → Work Desk Estimate,
        compute planner sources request =
          Work.ofExcept (checkFigures request) >>= fun _ =>
            Desk.onWire (Route.resolve planner.client (.position p) (.position q)) >>= rest := by
  obtain ⟨fromStart, fromDest⟩ := Bool.and_eq_true_iff.mp coordinates
  obtain ⟨p, start⟩ := Option.isSome_iff_exists.mp fromStart
  obtain ⟨q, dest⟩ := Option.isSome_iff_exists.mp fromDest
  obtain ⟨onGlobeStart, onGlobeDest⟩ := onGlobe_of_read valid
  have given : ends request = .ok ((.position p, label p), (.position q, label q)) := by
    simp only [ends, start, dest]
  refine ⟨p, q, onGlobeStart p start, onGlobeDest q dest, given, fun planner sources => ?_⟩
  apply Exists.intro
  rw [compute, given]
  rfl

/-- A request that gives one end as a text and the other one as an object. -/
theorem ends_onGlobe_written :
    let payload : Json := .object [("start_coord", .text "28.6, 77.2"),
      ("dest_coord", .object [("lat", .float 26.9), ("lng", .text "75.8")]),
      ("vehicle_type", .text "car"), ("mileage", .int 15), ("kilometers_per_day", .int 300)]
    ∃ request, Request.read payload = .ok (.fine request) ∧ request.usesCoordinates = true ∧
      ∃ p q, OnGlobe p ∧ OnGlobe q ∧
        ends request = .ok ((.position p, label p), (.position q, label q)) := by
  intro payload
  have accepted : ((Request.read payload).toOption.bind Checked.value?).map
      Request.usesCoordinates = some true := by
    decide +kernel
  obtain ⟨request, found, coordinates⟩ := Option.map_eq_some_iff.mp accepted
  obtain ⟨checked, read, fine⟩ := Option.bind_eq_some_iff.mp found
  obtain rfl := Checked.value?_eq_some.mp fine
  have valid := toOption_eq_some_iff.mp read
  obtain ⟨p, q, start, dest, given, -⟩ := ends_onGlobe valid coordinates
  exact ⟨request, valid, coordinates, p, q, start, dest, given⟩

end JourneyCost.Trip
