import JourneyCost.Fuel.Price
import JourneyCost.Proofs.Geo.Position
import Mathlib.Data.List.Forall2

/-!
# Prices read city by city

Each city of a data set gives an entry or none, whatever the other cities hold.  Only a number that
no float can hold, a price or a coordinate of a city with a price, leaves the whole data set
without entries.
-/

namespace JourneyCost.Fuel

open Geo (HugePosition TellsPosition)

/-- A city of a data set that is an object. -/
structure City where
  /-- The state that lists the city. -/
  state : String
  /-- The name of the city. -/
  name : String
  /-- The members of the city. -/
  values : Fields

/-- The cities of a state, in order. -/
def citiesOf (state : String × Json) : List City :=
  (state.2.fields?.getD []).filterMap fun city =>
    city.2.fields?.map (City.mk state.1 city.1)

/-- The cities of all states, in order. -/
def cities (states : Fields) : List City := states.flatMap citiesOf

/-- The price of a city, or a coordinate of a city with a price, is too large for a float. -/
def HugeCity (kind : String) (city : City) : Prop :=
  (city.values.get kind).IsHuge ∨ ∃ price, (city.values.get kind).toNumber = .ok price ∧
    HugePosition (city.values.get "location")

/-- An entry is what a city gives for a kind of fuel. -/
structure IsEntry (kind : String) (city : City) (entry : Entry) : Prop where
  /-- The state is that of the city. -/
  state : entry.state = city.state
  /-- The name is that of the city. -/
  name : entry.city = city.name
  /-- The price is the number that the city gives for the kind of fuel. -/
  price : (city.values.get kind).toNumber = .ok entry.price
  /-- The position is the one that the city names, if it names one. -/
  location : ∀ p, entry.location = some p ↔ TellsPosition (city.values.get "location") p

variable {kind : String} {fault : Fault}

section

variable {city : City}

/-- What a city of a state is read as. -/
abbrev City.entry (kind : String) (city : City) : Except Fault (Option Entry) :=
  cityEntry kind city.state (city.name, .object city.values)

/-- The price is read first, and the position only of a city with a price. -/
theorem entry_eq (kind : String) (city : City) :
    city.entry kind =
      recoverWhen Fault.isUnreadable none ((city.values.get kind).toNumber.map some) >>=
        fun price => price.elim (.ok none) fun amount =>
          Geo.positionOf (city.values.get "location") >>= fun position =>
            .ok (some ⟨city.state, city.name, amount, position⟩) := by
  unfold City.entry cityEntry
  simp only
  split
  · rename_i absent
    rw [absent]
    rfl
  · refine bind_congr fun price => ?_
    cases price <;> rfl

theorem entry_of_priced {price : Float} (priced : (city.values.get kind).toNumber = .ok price) :
    city.entry kind = Geo.positionOf (city.values.get "location") >>= fun position =>
      .ok (some ⟨city.state, city.name, price, position⟩) := by
  rw [entry_eq, priced]
  rfl

/-- A city without a price that can be read is left out. -/
theorem entry_of_unreadable {cause : Fault}
    (unpriced : (city.values.get kind).toNumber = .error cause)
    (unreadable : cause.isUnreadable = true) : city.entry kind = .ok none := by
  rw [entry_eq, unpriced, Except.map, recoverWhen, if_pos unreadable]
  rfl

theorem entry_of_isHuge (huge : (city.values.get kind).IsHuge) :
    city.entry kind = .error .overflow := by
  rw [entry_eq, Json.toNumber_of_isHuge huge]
  rfl

theorem entry_eq_error_iff :
    city.entry kind = .error fault ↔ fault = .overflow ∧ HugeCity kind city := by
  unfold HugeCity
  cases priced : (city.values.get kind).toNumber with
  | ok price =>
      have small : ¬ (city.values.get kind).IsHuge := fun huge => by
        rw [Json.toNumber_of_isHuge huge] at priced
        cases priced
      rw [entry_of_priced priced, bind_eq_error, Geo.positionOf_eq_error_iff]
      simp [small]
  | error cause =>
      rcases Json.toNumber_eq_error priced with ⟨rfl, huge⟩ | unreadable
      · rw [entry_of_isHuge huge]
        simp only [Except.error.injEq, huge, true_or, and_true]
        exact eq_comm
      · have small : ¬ (city.values.get kind).IsHuge := fun huge => by
          rw [Json.toNumber_of_isHuge huge] at priced
          obtain rfl := Except.error.inj priced
          cases unreadable
        rw [entry_of_unreadable priced unreadable]
        simp [small]

theorem isEntry_of_entry {entry : Entry} (read : city.entry kind = .ok (some entry)) :
    IsEntry kind city entry := by
  rw [entry_eq] at read
  obtain ⟨price, priced, read⟩ := bind_eq_ok.mp read
  cases price with
  | none => cases read
  | some amount =>
      obtain ⟨position, placed, made⟩ := bind_eq_ok.mp read
      obtain rfl := Option.some.inj (Except.ok.inj made)
      rw [recoverWhen_none_eq_some_iff] at priced
      refine ⟨rfl, rfl, ?_, fun p => ?_⟩
      · cases number : (city.values.get kind).toNumber with
        | error cause =>
            rw [number] at priced
            cases priced
        | ok x =>
            rw [number] at priced
            exact congrArg Except.ok (Option.some.inj (Except.ok.inj priced))
      · rw [← Geo.positionOf_eq_some_iff, placed]
        simp

/-- Cities give one entry at most. -/
theorem IsEntry.unique {one other : Entry} (first : IsEntry kind city one)
    (second : IsEntry kind city other) : one = other := by
  have state := first.state.trans second.state.symm
  have name := first.name.trans second.name.symm
  have price := Except.ok.inj (first.price.symm.trans second.price)
  have location : one.location = other.location :=
    Option.ext fun p => (first.location p).trans (second.location p).symm
  cases one
  cases other
  cases state
  cases name
  cases price
  cases location
  rfl

/-- A city that can be read has the entry that it gives, or none if it gives none. -/
theorem eq_some_iff_of_entry {answer : Option Entry} (read : city.entry kind = .ok answer)
    (entry : Entry) : answer = some entry ↔ IsEntry kind city entry := by
  constructor
  · rintro rfl
    exact isEntry_of_entry read
  · intro isEntry
    rw [entry_of_priced isEntry.price] at read
    obtain ⟨position, placed, made⟩ := bind_eq_ok.mp read
    obtain rfl := Except.ok.inj made
    have given : city.entry kind = .ok (some ⟨city.state, city.name, entry.price, position⟩) := by
      rw [entry_of_priced isEntry.price, placed]
      rfl
    rw [isEntry.unique (isEntry_of_entry given)]

end

/-- The entries that cities are read as. -/
def readCities (kind : String) (cities : List City) : Except Fault (List Entry) :=
  cities.mapM (City.entry kind) >>= fun answers => .ok (answers.filterMap id)

theorem readCities_singleton (city : City) :
    readCities kind [city] = city.entry kind >>= fun answer => .ok answer.toList := by
  unfold readCities
  rw [List.mapM_cons]
  cases city.entry kind with
  | error cause => rfl
  | ok answer => cases answer <;> rfl

theorem readCities_append (front back : List City) :
    readCities kind (front ++ back) = readCities kind front >>= fun found =>
      readCities kind back >>= fun more => .ok (found ++ more) := by
  unfold readCities
  rw [List.mapM_append]
  cases front.mapM (City.entry kind) with
  | error cause => rfl
  | ok answers =>
      cases back.mapM (City.entry kind) with
      | error cause => rfl
      | ok more => exact congrArg Except.ok List.filterMap_append

theorem citiesOf_object_cons (state name : String) (value : Json) (rest : Fields) :
    citiesOf (state, .object ((name, value) :: rest)) =
      (value.fields?.map (City.mk state name)).toList ++ citiesOf (state, .object rest) := by
  cases value <;> rfl

/-- What is no object counts for nothing among the cities of a state. -/
theorem stateEntries_eq_readCities (kind : String) (state : String × Json) :
    stateEntries kind state = readCities kind (citiesOf state) := by
  obtain ⟨state, value⟩ := state
  cases value with
  | null | bool | int | float | text | list => rfl
  | object fields =>
      induction fields with
      | nil => rfl
      | cons city rest induction =>
          obtain ⟨name, value⟩ := city
          rw [citiesOf_object_cons, readCities_append, ← induction]
          simp only [stateEntries, List.mapM_cons]
          cases value with
          | null | bool | int | float | text | list =>
              cases rest.mapM (cityEntry kind state) <;> rfl
          | object values =>
              change _ = readCities kind [⟨state, name, values⟩] >>= _
              rw [readCities_singleton, City.entry]
              cases cityEntry kind state (name, .object values) with
              | error cause => rfl
              | ok answer => cases rest.mapM (cityEntry kind state) <;> cases answer <;> rfl

theorem entries_eq_readCities (kind : String) (states : Fields) :
    entries kind (.object states) = readCities kind (cities states) := by
  induction states with
  | nil => rfl
  | cons state rest induction =>
      rw [cities, List.flatMap_cons, readCities_append, ← stateEntries_eq_readCities]
      rw [cities] at induction
      rw [← induction]
      simp only [entries, List.mapM_cons]
      cases stateEntries kind state with
      | error cause => rfl
      | ok found => cases rest.mapM (stateEntries kind) <;> rfl

theorem entries_eq_error_iff {states : Fields} :
    entries kind (.object states) = .error fault ↔
      fault = .overflow ∧ ∃ city ∈ cities states, HugeCity kind city := by
  rw [entries_eq_readCities, readCities, bind_eq_error,
    mapM_eq_error_iff_exists fun _ _ _ => entry_eq_error_iff]
  simp

/-- Each city answers for itself, and the entries are the answers in order. -/
theorem forall₂_of_entries {states : Fields} {found : List Entry}
    (read : entries kind (.object states) = .ok found) :
    ∃ answers, List.Forall₂ (fun city answer => ∀ entry, answer = some entry ↔
        IsEntry kind city entry) (cities states) answers ∧ found = answers.filterMap id := by
  rw [entries_eq_readCities, readCities] at read
  obtain ⟨answers, answered, made⟩ := bind_eq_ok.mp read
  exact ⟨answers, (forall₂_of_mapM answered).imp fun _ _ => eq_some_iff_of_entry,
    (Except.ok.inj made).symm⟩

end JourneyCost.Fuel
