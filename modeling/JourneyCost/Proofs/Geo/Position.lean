import JourneyCost.Geo.Position
import JourneyCost.Proofs.Fault
import JourneyCost.Proofs.Json.Number

/-!
# Positions that cannot be told

Whatever the shape of a document, reading a position from it either tells one or tells that there
is none.  The one exception is a coordinate that no float can hold.
-/

namespace JourneyCost.Geo

open Json (HugePair readPair)

/-- The coordinates of the first feature of a collection. -/
def firstCoordinates (fields : Fields) : Except Fault Json := do
  let geometry ← (← (Fields.get fields "features").item 0).member "geometry"
  geometry.member "coordinates"

/-- The first feature of a collection has a coordinate that no float can hold. -/
def HugeFeature (payload : Json) : Prop :=
  ∃ fields coordinates, payload = .object fields ∧ firstCoordinates fields = .ok coordinates ∧
    HugePair (coordinates.item 0) (coordinates.item 1)

variable {fault : Fault}

theorem isTruthy_of_item {value inner : Json} {position : Nat}
    (found : value.item position = .ok inner) : value.isTruthy = true := by
  cases value with
  | list items => cases items <;> simp_all [Json.item, Json.isTruthy]
  | text s =>
      have filled : s ≠ "" := by
        rintro rfl
        simp [Json.item] at found
      simpa [Json.isTruthy] using filled
  | null | bool | int | float | object => simp [Json.item] at found

/-- A reader that forgives what is unusable fails on huge coordinates alone. -/
theorem recoverWhen_isUnusable_eq_error_iff {α : Type} {substitute : α}
    {first second : Except Fault Json} {make : Float → Float → α}
    (firstUnusable : ∀ cause, first = .error cause → cause.isUnusable = true)
    (secondUnusable : ∀ cause, second = .error cause → cause.isUnusable = true) :
    recoverWhen Fault.isUnusable substitute (readPair first second make) = .error fault ↔
      fault = .overflow ∧ HugePair first second :=
  Json.recoverWhen_readPair_eq_error_iff (fun _ => Json.isUnusable_of_isUnreadable)
    firstUnusable secondUnusable rfl

theorem isUnusable_of_firstCoordinates {fields : Fields}
    (lacking : firstCoordinates fields = .error fault) : fault.isUnusable = true := by
  simp only [firstCoordinates, bind_eq_error] at lacking
  rcases lacking with noFeature | ⟨feature, -, noGeometry | ⟨geometry, -, noCoordinates⟩⟩
  · exact Json.isUnusable_of_item noFeature
  · exact Json.isUnusable_of_member noGeometry
  · exact Json.isUnusable_of_member noCoordinates

theorem isTruthy_of_firstCoordinates {fields : Fields} {coordinates : Json}
    (placed : firstCoordinates fields = .ok coordinates) :
    (Fields.get fields "features").isTruthy = true := by
  simp only [firstCoordinates, bind_eq_ok] at placed
  obtain ⟨feature, found, -⟩ := placed
  exact isTruthy_of_item found

theorem firstFeature_eq_error_iff {payload : Json} :
    firstFeature payload = .error fault ↔ fault = .overflow ∧ HugeFeature payload := by
  cases payload with
  | null | bool | int | float | text | list => simp [firstFeature, HugeFeature]
  | object fields =>
      have steps : firstFeature (.object fields) =
          if !(Fields.get fields "features").isTruthy then .ok none
          else recoverWhen Fault.isUnusable none (firstCoordinates fields >>= fun coordinates =>
            readPair (coordinates.item 0) (coordinates.item 1) fun x y => some ⟨x, y⟩) := by
        simp only [firstCoordinates, bind_assoc]
        rfl
      have last : ∀ coordinates : Json,
          recoverWhen Fault.isUnusable none (readPair (coordinates.item 0) (coordinates.item 1)
            fun x y => some (Point.mk x y)) = .error fault ↔
              fault = .overflow ∧ HugePair (coordinates.item 0) (coordinates.item 1) :=
        fun coordinates => recoverWhen_isUnusable_eq_error_iff
          (fun _ => Json.isUnusable_of_item) fun _ => Json.isUnusable_of_item
      rw [steps]
      by_cases offered : (Fields.get fields "features").isTruthy = true
      · rw [offered, Bool.not_true, if_neg Bool.false_ne_true,
          recoverWhen_bind_eq_error_iff fun _ => isUnusable_of_firstCoordinates]
        constructor
        · rintro ⟨coordinates, placed, failed⟩
          obtain ⟨overflow, huge⟩ := (last coordinates).mp failed
          exact ⟨overflow, fields, coordinates, rfl, placed, huge⟩
        · rintro ⟨overflow, same, coordinates, isObject, placed, huge⟩
          obtain rfl := Json.object.inj isObject
          exact ⟨coordinates, placed, (last coordinates).mpr ⟨overflow, huge⟩⟩
      · rw [if_pos (by simp [offered])]
        simp only [reduceCtorEq, false_iff]
        rintro ⟨-, same, coordinates, isObject, placed, -⟩
        obtain rfl := Json.object.inj isObject
        exact offered (isTruthy_of_firstCoordinates placed)

/-- The reading of two documents fails on huge numbers alone. -/
theorem recoverWhen_pair_eq_error_iff {α : Type} {substitute : α} {first second : Json}
    {make : Float → Float → α} :
    recoverWhen Fault.isUnreadable substitute (readPair (.ok first) (.ok second) make) =
        .error fault ↔
      fault = .overflow ∧ HugePair (.ok first) (.ok second) :=
  Json.recoverWhen_readPair_eq_error_iff (fun _ => id) (fun _ failed => by simp at failed)
    (fun _ failed => by simp at failed) rfl

/-- The position that the first two items of a list make up. -/
theorem pairPosition_of_two (first second : Json) (rest : List Json) :
    pairPosition (.list (first :: second :: rest)) = recoverWhen Fault.isUnreadable none
      (readPair (.ok first) (.ok second) fun x y => some (orient x y)) := by
  have long : ¬ (first :: second :: rest).length < 2 := by simp
  simp only [pairPosition, Json.length, ok_bind, if_neg long]
  rfl

theorem pairPosition_list_eq_error_iff {items : List Json} :
    pairPosition (.list items) = .error fault ↔
      fault = .overflow ∧ ∃ a b rest, items = a :: b :: rest ∧ HugePair (.ok a) (.ok b) := by
  match items with
  | [] | [_] => simp [pairPosition, Json.length, pure, Except.pure]
  | a :: b :: rest =>
      rw [pairPosition_of_two, recoverWhen_pair_eq_error_iff]
      constructor
      · rintro ⟨overflow, huge⟩
        exact ⟨overflow, a, b, rest, rfl, huge⟩
      · rintro ⟨overflow, a', b', rest', same, huge⟩
        simp only [List.cons.injEq] at same
        obtain ⟨rfl, rfl, rfl⟩ := same
        exact ⟨overflow, huge⟩

/-- The members of an object that name its longitude and its latitude. -/
def Named (fields : Fields) (longitude latitude : Json) : Prop :=
  fields.firstPresent? longitudeKeys = some longitude ∧
    fields.firstPresent? latitudeKeys = some latitude

theorem namedPosition_of_named {fields : Fields} {longitude latitude : Json}
    (named : Named fields longitude latitude) :
    namedPosition fields = recoverWhen Fault.isUnreadable none
      (readPair (.ok longitude) (.ok latitude) fun x y => some (Point.mk x y)) := by
  obtain ⟨east, north⟩ := named
  have same : (readPoint longitude latitude).map some =
      readPair (.ok longitude) (.ok latitude) fun x y => some (Point.mk x y) := by
    simp only [readPoint, readPair, ok_bind]
    cases longitude.toNumber <;> cases latitude.toNumber <;> rfl
  simp only [namedPosition, east, north, same]

theorem namedPosition_of_unnamed {fields : Fields}
    (unnamed : ∀ longitude latitude, ¬ Named fields longitude latitude) :
    namedPosition fields = .ok none := by
  unfold namedPosition
  split
  · rename_i latitude longitude north east
    exact absurd ⟨east, north⟩ (unnamed longitude latitude)
  · rfl

/-- A document names a coordinate that no float can hold. -/
def HugePosition (value : Json) : Prop :=
  ∃ fields longitude latitude, value = .object fields ∧ Named fields longitude latitude ∧
    HugePair (.ok longitude) (.ok latitude)

theorem namedPosition_eq_error_iff {fields : Fields} :
    namedPosition fields = .error fault ↔ fault = .overflow ∧ HugePosition (.object fields) := by
  constructor
  · intro failed
    by_cases named : ∃ longitude latitude, Named fields longitude latitude
    · obtain ⟨longitude, latitude, named⟩ := named
      rw [namedPosition_of_named named, recoverWhen_pair_eq_error_iff] at failed
      obtain ⟨overflow, huge⟩ := failed
      exact ⟨overflow, fields, longitude, latitude, rfl, named, huge⟩
    · rw [namedPosition_of_unnamed (by simpa using named)] at failed
      cases failed
  · rintro ⟨overflow, same, longitude, latitude, isObject, named, huge⟩
    obtain rfl := Json.object.inj isObject
    rw [namedPosition_of_named named, recoverWhen_pair_eq_error_iff]
    exact ⟨overflow, huge⟩

theorem positionOf_eq_error_iff {value : Json} :
    positionOf value = .error fault ↔ fault = .overflow ∧ HugePosition value := by
  cases value with
  | object fields => exact namedPosition_eq_error_iff
  | null | bool | int | float | text | list => simp [positionOf, HugePosition]

/-- The position that a document names if it is an object. -/
def TellsPosition (value : Json) (p : Point) : Prop :=
  ∃ fields longitude latitude, value = .object fields ∧ Named fields longitude latitude ∧
    longitude.Tells latitude Point.mk p

theorem namedPosition_eq_some_iff {fields : Fields} {p : Point} :
    namedPosition fields = .ok (some p) ↔ TellsPosition (.object fields) p := by
  constructor
  · intro found
    by_cases named : ∃ longitude latitude, Named fields longitude latitude
    · obtain ⟨longitude, latitude, named⟩ := named
      rw [namedPosition_of_named named, Json.recoverWhen_readPair_eq_some_iff] at found
      exact ⟨fields, longitude, latitude, rfl, named, found⟩
    · rw [namedPosition_of_unnamed (by simpa using named)] at found
      cases found
  · rintro ⟨same, longitude, latitude, isObject, named, tells⟩
    obtain rfl := Json.object.inj isObject
    rw [namedPosition_of_named named, Json.recoverWhen_readPair_eq_some_iff]
    exact tells

theorem positionOf_eq_some_iff {value : Json} {p : Point} :
    positionOf value = .ok (some p) ↔ TellsPosition value p := by
  cases value with
  | object fields => exact namedPosition_eq_some_iff
  | null | bool | int | float | text | list => simp [positionOf, TellsPosition]

end JourneyCost.Geo
