import JourneyCost.Proofs.Geo.Position
import JourneyCost.Trip.Coordinate

/-!
# Coordinates with names

A data set passes over the name of a coordinate without a value, while in a request the first name
that is present decides, even if it holds a null.  Both take the same two values otherwise.
-/

namespace JourneyCost.Trip

open Geo (Named latitudeKeys longitudeKeys namedPosition positionOf readPoint)

/-- A null hides a value: of the names of a coordinate, the first that is present holds a null, and
a later one holds something else. -/
def Hides (fields : Fields) (keys : List String) : Prop :=
  ∃ before key after, keys = before ++ key :: after ∧
    (∀ other ∈ before, fields.find? other = none) ∧ fields.find? key = some .null ∧
    ∃ value, fields.firstPresent? after = some value

variable {fields : Fields} {key : String} {keys more : List String} {value : Json}

theorem firstPresent?_cons_of_filled (found : fields.find? key = some value)
    (filled : value ≠ .null) : fields.firstPresent? (key :: more) = some value := by
  cases value <;> simp_all [Fields.firstPresent?]

theorem firstPresent?_cons_of_lacking
    (lacking : fields.find? key = none ∨ fields.find? key = some .null) :
    fields.firstPresent? (key :: more) = fields.firstPresent? more := by
  rcases lacking with absent | null <;> simp [Fields.firstPresent?, *]

theorem hides_cons_iff : Hides fields (key :: more) ↔
    (fields.find? key = some .null ∧ ∃ value, fields.firstPresent? more = some value) ∨
      (fields.find? key = none ∧ Hides fields more) := by
  constructor
  · rintro ⟨before, nulled, after, names, absent, null, later⟩
    cases before with
    | nil =>
        obtain ⟨rfl, rfl⟩ := List.cons.inj names
        exact .inl ⟨null, later⟩
    | cons other before =>
        obtain ⟨rfl, rfl⟩ := List.cons.inj names
        obtain ⟨here, absent⟩ := List.forall_mem_cons.mp absent
        exact .inr ⟨here, before, nulled, after, rfl, absent, null, later⟩
  · rintro (⟨null, later⟩ | ⟨here, before, nulled, after, rfl, absent, null, later⟩)
    · exact ⟨[], key, more, rfl, List.forall_mem_nil _, null, later⟩
    · exact ⟨key :: before, nulled, after, rfl, List.forall_mem_cons.mpr ⟨here, absent⟩, null,
        later⟩

theorem ne_null_of_firstPresent? (found : fields.firstPresent? keys = some value) :
    value ≠ .null := by
  obtain ⟨key, -, named⟩ := List.exists_of_findSome?_eq_some found
  rintro rfl
  split at named <;> simp_all

/-- A request takes the value that a data set takes, unless a null hides it. -/
theorem firstNamed_eq_iff (filled : value ≠ .null) : firstNamed fields keys = value ↔
    fields.firstPresent? keys = some value ∧ ¬ Hides fields keys := by
  induction keys with
  | nil => simp [firstNamed, Fields.firstPresent?, filled.symm]
  | cons key more induction =>
      rw [firstNamed, hides_cons_iff]
      cases found : fields.find? key with
      | none =>
          rw [firstPresent?_cons_of_lacking (.inl found)]
          simpa using induction
      | some first =>
          by_cases null : first = .null
          · -- The request stops here, and whatever comes later is hidden.
            subst null
            rw [firstPresent?_cons_of_lacking (.inr found)]
            simpa [filled.symm] using fun later => ⟨value, later⟩
          · rw [firstPresent?_cons_of_filled found null]
            simp [null]

theorem isNull_iff : value.isNull = true ↔ value = .null := by
  cases value <;> simp [Json.isNull]

theorem ofFields_of_null
    (null : firstNamed fields latitudeKeys = .null ∨ firstNamed fields longitudeKeys = .null) :
    ofFields fields = .error .incomplete := by
  rw [ofFields, if_pos]
  simpa only [Bool.or_eq_true, isNull_iff] using null

theorem ofFields_of_filled (north : firstNamed fields latitudeKeys ≠ .null)
    (east : firstNamed fields longitudeKeys ≠ .null) : ofFields fields =
      .ok ⟨firstNamed fields latitudeKeys, firstNamed fields longitudeKeys⟩ := by
  rw [ofFields, if_neg]
  simpa only [Bool.or_eq_true, isNull_iff, not_or] using ⟨north, east⟩

theorem ofFields_eq_ok_iff {raw : RawCoordinate} : ofFields fields = .ok raw ↔
    Named fields raw.longitude raw.latitude ∧
      ¬ Hides fields latitudeKeys ∧ ¬ Hides fields longitudeKeys := by
  constructor
  · intro taken
    by_cases null : firstNamed fields latitudeKeys = .null ∨ firstNamed fields longitudeKeys = .null
    · rw [ofFields_of_null null] at taken
      cases taken
    · obtain ⟨northFilled, eastFilled⟩ := not_or.mp null
      rw [ofFields_of_filled northFilled eastFilled] at taken
      obtain rfl := Except.ok.inj taken
      obtain ⟨north, northShown⟩ := (firstNamed_eq_iff northFilled).mp rfl
      obtain ⟨east, eastShown⟩ := (firstNamed_eq_iff eastFilled).mp rfl
      exact ⟨⟨east, north⟩, northShown, eastShown⟩
  · rintro ⟨⟨east, north⟩, northShown, eastShown⟩
    have first := (firstNamed_eq_iff (ne_null_of_firstPresent? north)).mpr ⟨north, northShown⟩
    have second := (firstNamed_eq_iff (ne_null_of_firstPresent? east)).mpr ⟨east, eastShown⟩
    rw [ofFields_of_filled (first ▸ ne_null_of_firstPresent? north)
      (second ▸ ne_null_of_firstPresent? east), first, second]

theorem ofFields_eq_incomplete_iff : ofFields fields = .error .incomplete ↔
    (∀ longitude latitude, ¬ Named fields longitude latitude) ∨
      Hides fields latitudeKeys ∨ Hides fields longitudeKeys := by
  have refused : ofFields fields = .error .incomplete ↔ ∀ raw, ofFields fields ≠ .ok raw := by
    by_cases null : firstNamed fields latitudeKeys = .null ∨ firstNamed fields longitudeKeys = .null
    · simp [ofFields_of_null null]
    · obtain ⟨north, east⟩ := not_or.mp null
      simp [ofFields_of_filled north east]
  rw [refused]
  constructor
  · intro never
    by_contra taken
    simp only [not_or, not_forall, not_not] at taken
    obtain ⟨⟨longitude, latitude, named⟩, shown⟩ := taken
    exact never ⟨latitude, longitude⟩ (ofFields_eq_ok_iff.mpr ⟨named, shown⟩)
  · rintro reasons raw taken
    obtain ⟨named, northShown, eastShown⟩ := ofFields_eq_ok_iff.mp taken
    rcases reasons with unnamed | northHidden | eastHidden
    · exact unnamed _ _ named
    · exact northShown northHidden
    · exact eastShown eastHidden

theorem positionOf_of_named {longitude latitude : Json} (named : Named fields longitude latitude) :
    positionOf (.object fields) =
      recoverWhen Fault.isUnreadable none ((readPoint longitude latitude).map some) := by
  rw [positionOf, namedPosition, named.1, named.2]

/-- A request takes from an object the two values from which a data set reads a position, unless a
null hides one of them.  An object is refused for want of a coordinate if a data set finds no two
values in it, or if a null hides one from the request. -/
theorem readCoordinate_of_object (fields : Fields) :
    (∀ raw, readCoordinate (.object fields) = .ok (.ok raw) ↔
      Named fields raw.longitude raw.latitude ∧
        ¬ Hides fields latitudeKeys ∧ ¬ Hides fields longitudeKeys) ∧
    (readCoordinate (.object fields) = .ok (.error .incomplete) ↔
      (∀ longitude latitude, ¬ Named fields longitude latitude) ∨
        Hides fields latitudeKeys ∨ Hides fields longitudeKeys) ∧
    (∀ longitude latitude, Named fields longitude latitude → positionOf (.object fields) =
      recoverWhen Fault.isUnreadable none ((readPoint longitude latitude).map some)) ∧
    ((∀ longitude latitude, ¬ Named fields longitude latitude) →
      positionOf (.object fields) = .ok none) := by
  simp only [readCoordinate, Except.ok.injEq]
  exact ⟨fun raw => ofFields_eq_ok_iff, ofFields_eq_incomplete_iff,
    fun longitude latitude => positionOf_of_named, Geo.namedPosition_of_unnamed⟩

/-- A null after the name that decides hides nothing: both readers take the same two values. -/
theorem readCoordinate_of_trailing_nulls :
    let fields : Fields :=
      [("lat", .float 28.6), ("latitude", .null), ("longitude", .float 77.2), ("lng", .null)]
    Named fields (.float 77.2) (.float 28.6) ∧
      readCoordinate (.object fields) = .ok (.ok ⟨.float 28.6, .float 77.2⟩) ∧
      positionOf (.object fields) =
        recoverWhen Fault.isUnreadable none ((readPoint (.float 77.2) (.float 28.6)).map some) := by
  intro fields
  have north : firstNamed fields latitudeKeys = .float 28.6 := rfl
  have east : firstNamed fields longitudeKeys = .float 77.2 := rfl
  have filled (degrees : Float) : Json.float degrees ≠ .null := nofun
  obtain ⟨latitude, northShown⟩ := (firstNamed_eq_iff (filled _)).mp north
  obtain ⟨longitude, eastShown⟩ := (firstNamed_eq_iff (filled _)).mp east
  obtain ⟨taken, -, read, -⟩ := readCoordinate_of_object fields
  exact ⟨⟨longitude, latitude⟩,
    (taken ⟨.float 28.6, .float 77.2⟩).mpr ⟨⟨longitude, latitude⟩, northShown, eastShown⟩,
    read _ _ ⟨longitude, latitude⟩⟩

/-- It is not so that a request is refused for want of a coordinate only if a data set finds no two
values: here a null hides the latitude. -/
theorem not_readCoordinate_of_unnamed : ¬ ∀ fields : Fields,
    readCoordinate (.object fields) = .ok (.error .incomplete) ↔
      ∀ longitude latitude, ¬ Named fields longitude latitude := by
  intro agree
  have named : Named [("lat", .null), ("latitude", .float 28.6), ("lon", .float 77.2)]
      (.float 77.2) (.float 28.6) := ⟨rfl, rfl⟩
  exact (agree _).mp rfl _ _ named

end JourneyCost.Trip
