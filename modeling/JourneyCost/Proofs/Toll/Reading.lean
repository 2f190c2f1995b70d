import JourneyCost.Proofs.Geo.Position
import JourneyCost.Toll.Plaza

/-!
# Plazas read from records

A record of any shape is read as a plaza, with a position if it tells one.  Only a coordinate that
no float can hold leaves a record without a plaza.
-/

namespace JourneyCost.Toll

open Geo (Named orient)
open Json (HugePair readPair)

/-- The two documents that a record gives for coordinates, and the point that they make up. -/
inductive Positioned (record : Fields) : Json → Json → (Float → Float → Point) → Prop where
  /-- A member names them. -/
  | own {location : Fields} {longitude latitude : Json} :
      record.get "location" = .object location → Named location longitude latitude →
      Positioned record longitude latitude Point.mk
  /-- A member lists them in either order. -/
  | pair {first second : Json} {rest : List Json} :
      record.get "location" = .list (first :: second :: rest) →
      Positioned record first second orient
  /-- The record itself names them. -/
  | bare {longitude latitude : Json} :
      (record.get "location").fields? = none → (record.get "location").items? = none →
      Named record longitude latitude → Positioned record longitude latitude Point.mk

/-- A record gives coordinates of which one is too large for a float. -/
def HugeRecord (record : Fields) : Prop :=
  ∃ first second make, Positioned record first second make ∧ HugePair (.ok first) (.ok second)

/-- A record tells a position that is not the origin of the grid. -/
def Located (record : Fields) (p : Point) : Prop :=
  (∃ first second make, Positioned record first second make ∧ first.Tells second make p) ∧
    Plaza.isOrigin p = false

variable {record : Fields} {fault : Fault}

theorem recordedPosition_of_positioned {first second : Json} {make : Float → Float → Point}
    (positioned : Positioned record first second make) :
    Plaza.recordedPosition record = recoverWhen Fault.isUnreadable none
      (readPair (.ok first) (.ok second) fun x y => some (make x y)) := by
  unfold Plaza.recordedPosition
  cases positioned with
  | own member named =>
      rw [member]
      exact Geo.namedPosition_of_named named
  | pair member =>
      rw [member]
      exact Geo.pairPosition_of_two _ _ _
  | bare noObject noList named =>
      rw [← Geo.namedPosition_of_named named]
      split
      · rename_i member
        simp [member, Json.fields?] at noObject
      · rename_i member
        simp [member, Json.items?] at noList
      · rfl

theorem recordedPosition_of_not_positioned
    (unplaced : ∀ first second make, ¬ Positioned record first second make) :
    Plaza.recordedPosition record = .ok none := by
  unfold Plaza.recordedPosition
  split
  · rename_i member
    exact Geo.namedPosition_of_unnamed fun _ _ named => unplaced _ _ _ (.own member named)
  · rename_i items member
    match items with
    | [] | [_] => rfl
    | first :: second :: rest => exact absurd (.pair member) (unplaced first second orient)
  · rename_i noObject noList
    refine Geo.namedPosition_of_unnamed fun _ _ named => unplaced _ _ _ (.bare ?_ ?_ named)
    · cases member : record.get "location" <;> simp_all [Json.fields?]
    · cases member : record.get "location" <;> simp_all [Json.items?]

theorem recordedPosition_eq_error_iff :
    Plaza.recordedPosition record = .error fault ↔ fault = .overflow ∧ HugeRecord record := by
  constructor
  · intro failed
    by_cases placed : ∃ first second make, Positioned record first second make
    · obtain ⟨first, second, make, positioned⟩ := placed
      rw [recordedPosition_of_positioned positioned, Geo.recoverWhen_pair_eq_error_iff] at failed
      obtain ⟨overflow, huge⟩ := failed
      exact ⟨overflow, first, second, make, positioned, huge⟩
    · rw [recordedPosition_of_not_positioned (by simpa using placed)] at failed
      cases failed
  · rintro ⟨overflow, first, second, make, positioned, huge⟩
    rw [recordedPosition_of_positioned positioned, Geo.recoverWhen_pair_eq_error_iff]
    exact ⟨overflow, huge⟩

theorem recordedPosition_eq_some_iff {p : Point} :
    Plaza.recordedPosition record = .ok (some p) ↔
      ∃ first second make, Positioned record first second make ∧ first.Tells second make p := by
  constructor
  · intro found
    by_cases placed : ∃ first second make, Positioned record first second make
    · obtain ⟨first, second, make, positioned⟩ := placed
      rw [recordedPosition_of_positioned positioned,
        Json.recoverWhen_readPair_eq_some_iff] at found
      exact ⟨first, second, make, positioned, found⟩
    · rw [recordedPosition_of_not_positioned (by simpa using placed)] at found
      cases found
  · rintro ⟨first, second, make, positioned, tells⟩
    rw [recordedPosition_of_positioned positioned, Json.recoverWhen_readPair_eq_some_iff]
    exact tells

theorem ofRecord_eq_error_iff :
    Plaza.ofRecord record = .error fault ↔ fault = .overflow ∧ HugeRecord record := by
  rw [Plaza.ofRecord, bind_eq_error, recordedPosition_eq_error_iff]
  simp [pure, Except.pure]

/-- A plaza has the position that its record tells, and none if the record tells none. -/
theorem location_of_ofRecord {plaza : Plaza} (read : Plaza.ofRecord record = .ok plaza)
    (p : Point) : plaza.location = some p ↔ Located record p := by
  obtain ⟨position, recorded, made⟩ := bind_eq_ok.mp read
  obtain rfl := Except.ok.inj made
  rw [Located, ← recordedPosition_eq_some_iff, recorded]
  simp only [Option.filter_eq_some_iff, Except.ok.injEq, Bool.not_eq_true']

end JourneyCost.Toll
