import JourneyCost.Fuel.Price
import JourneyCost.Proofs.Fault
import JourneyCost.Proofs.Json.Sorted
import Mathlib.Data.Prod.Lex

/-!
# The entries of a data set in order

From a data set of states, cities and prices whose members were put in order come the entries for
one kind of fuel: one for each city with a price, in the order of states and cities.
-/

namespace JourneyCost.Fuel

open Json

/-- A data set of prices for a kind of fuel: states and cities are objects, the prices for the kind
of fuel are floats, and positions can be read. -/
structure IsPriceSet (kind : String) (document : Json) : Prop where
  /-- The data set is an object. -/
  root : ∃ states, document = .object states
  /-- States are objects. -/
  states : ∀ state value, document.follow? [state] = some value → ∃ cities, value = .object cities
  /-- Cities are objects. -/
  cities : ∀ state city value, document.follow? [state, city] = some value →
    ∃ values, value = .object values
  /-- Prices are floats. -/
  prices : ∀ state city value, document.follow? [state, city, kind] = some value →
    ∃ price, value = .float price
  /-- Positions can be read, if there are any. -/
  positions : ∀ state city value, document.follow? [state, city, "location"] = some value →
    ∃ position, Geo.positionOf value.sorted = .ok position
  /-- Names are distinct. -/
  names : document.Distinct

/-- The place of an entry in the order of states and cities. -/
def Entry.place (entry : Entry) : String ×ₗ String := toLex (entry.state, entry.city)

/-- The entry that a city is read as, if it is read as one. -/
def entryAt? (kind state : String) (city : String × Json) : Option Entry :=
  (cityEntry kind state city).toOption.join

/-- The entries that the cities of a state are read as. -/
def entriesOf (kind : String) (state : String × Json) : List Entry :=
  (state.2.fields?.getD []).filterMap (entryAt? kind state.1)

/-- A city can be read as an entry or as none. -/
def Readable (kind state : String) (city : String × Json) : Prop :=
  ∃ entry, cityEntry kind state city = .ok entry

theorem cityEntry_eq_ok {kind state : String} {city : String × Json}
    (readable : Readable kind state city) :
    cityEntry kind state city = .ok (entryAt? kind state city) := by
  obtain ⟨entry, read⟩ := readable
  rw [entryAt?, read]
  rfl

/-- An entry names the state and the city that it is read from. -/
theorem of_cityEntry_eq_ok {kind state : String} {city : String × Json} {entry : Entry}
    (read : cityEntry kind state city = .ok (some entry)) :
    entry.state = state ∧ entry.city = city.1 := by
  unfold cityEntry at read
  split at read
  · split at read
    · exact absurd read (by simp)
    · obtain ⟨amount, -, read⟩ := bind_eq_ok.mp read
      cases amount with
      | none => exact absurd (Except.ok.inj read) (by simp)
      | some amount =>
          obtain ⟨location, -, read⟩ := bind_eq_ok.mp read
          obtain rfl := Option.some.inj (Except.ok.inj read)
          exact ⟨rfl, rfl⟩
  · exact absurd read (by simp)

theorem of_entryAt?_eq_some {kind state : String} {city : String × Json} {entry : Entry}
    (found : entryAt? kind state city = some entry) :
    entry.state = state ∧ entry.city = city.1 :=
  of_cityEntry_eq_ok (toOption_eq_some_iff.mp (Option.join_eq_some_iff.mp found))

theorem mem_entriesOf {kind name : String} {cities : Fields} {entry : Entry} :
    entry ∈ entriesOf kind (name, .object cities) ↔
      ∃ city ∈ cities, entryAt? kind name city = some entry := List.mem_filterMap

theorem stateEntries_eq_ok {kind name : String} {cities : Fields}
    (readable : ∀ city ∈ cities, Readable kind name city) :
    stateEntries kind (name, .object cities) = .ok (entriesOf kind (name, .object cities)) := by
  have read : cities.mapM (cityEntry kind name) = .ok (cities.map (entryAt? kind name)) :=
    mapM_eq_ok fun city member => cityEntry_eq_ok (readable city member)
  simp only [stateEntries, read, ok_bind, List.filterMap_map, entriesOf, Json.fields?,
    Option.getD_some]
  rfl

theorem entries_eq_ok {kind : String} {states : Fields}
    (objects : ∀ state ∈ states, ∃ cities, state.2 = .object cities ∧
      ∀ city ∈ cities, Readable kind state.1 city) :
    entries kind (.object states) = .ok (states.flatMap (entriesOf kind)) := by
  have each : ∀ state ∈ states, stateEntries kind state = .ok (entriesOf kind state) := by
    rintro ⟨name, value⟩ member
    obtain ⟨cities, rfl, readable⟩ := objects _ member
    exact stateEntries_eq_ok readable
  simp only [entries, mapM_eq_ok each, ok_bind]
  rfl

section

variable {kind : String} {document : Json}

theorem positionOf_ordered {state city : String} {values : Fields}
    (set : IsPriceSet kind document)
    (leads : document.follow? [state, city] = some (.object values)) :
    ∃ position, Geo.positionOf (Fields.get (orderedFields values) "location") = .ok position := by
  have names : (values.map Prod.fst).Nodup := set.names [state, city] values leads
  rw [Fields.get, find?_orderedFields names]
  cases found : Fields.find? values "location" with
  | none => exact ⟨none, rfl⟩
  | some value =>
      refine set.positions state city value ?_
      rw [← found]
      exact follow?_concat_of_object leads "location"

/-- A city with its members in order is read as an entry just when it has a price. -/
theorem readable_ordered {state city : String} {values : Fields}
    (set : IsPriceSet kind document)
    (leads : document.follow? [state, city] = some (.object values)) :
    Readable kind state (city, .object (orderedFields values)) ∧
      (entryAt? kind state (city, .object (orderedFields values))).map (Json.float ·.price) =
        document.follow? [state, city, kind] := by
  have names : (values.map Prod.fst).Nodup := set.names [state, city] values leads
  have inside : document.follow? [state, city, kind] = Fields.find? values kind :=
    follow?_concat_of_object leads kind
  obtain ⟨position, read⟩ := positionOf_ordered set leads
  rw [inside]
  cases found : Fields.find? values kind with
  | none =>
      have absent : cityEntry kind state (city, .object (orderedFields values)) = .ok none := by
        simp [cityEntry, Fields.get, find?_orderedFields names, found]
      exact ⟨⟨none, absent⟩, by rw [entryAt?, absent]; rfl⟩
  | some value =>
      obtain ⟨price, rfl⟩ := set.prices state city value (inside.trans found)
      have there : Fields.get (orderedFields values) kind = .float price := by
        rw [Fields.get, find?_orderedFields names, found]
        rfl
      have present : cityEntry kind state (city, .object (orderedFields values)) =
          .ok (some ⟨state, city, price, position⟩) := by
        simp only [cityEntry, there, Json.toNumber, Except.map, recoverWhen_ok, ok_bind, read]
        rfl
      exact ⟨⟨_, present⟩, by rw [entryAt?, present]; rfl⟩

/-- The states of a data set with their members in order. -/
theorem mem_ordered_states {states : Fields} (set : IsPriceSet kind (.object states))
    {state : String} {value : Json} :
    (state, value) ∈ orderedFields states ↔ ∃ cities,
      (Json.object states).follow? [state] = some (.object cities) ∧
        value = .object (orderedFields cities) := by
  have root : (Json.object states).follow? [] = some (.object states) := rfl
  exact mem_orderedFields_iff_of_objects set.names root set.states

/-- The cities of a state with their members in order. -/
theorem mem_ordered_cities (set : IsPriceSet kind document) {state city : String}
    {cities : Fields} (leads : document.follow? [state] = some (.object cities)) {value : Json} :
    (city, value) ∈ orderedFields cities ↔ ∃ values,
      document.follow? [state, city] = some (.object values) ∧
        value = .object (orderedFields values) :=
  mem_orderedFields_iff_of_objects set.names leads (set.cities state)

/-- The entries of states whose members are put in order. -/
def listed (kind : String) (states : Fields) : List Entry :=
  (orderedFields states).flatMap (entriesOf kind)

theorem mem_listed (set : IsPriceSet kind document) {states : Fields}
    (root : document = .object states) {entry : Entry} :
    entry ∈ listed kind states ↔ ∃ state city values,
      document.follow? [state, city] = some (.object values) ∧
        entryAt? kind state (city, .object (orderedFields values)) = some entry := by
  subst root
  constructor
  · intro member
    obtain ⟨⟨state, value⟩, inStates, member⟩ := List.mem_flatMap.mp member
    obtain ⟨cities, leadsState, rfl⟩ := (mem_ordered_states set).mp inStates
    obtain ⟨⟨city, value⟩, inCities, found⟩ := mem_entriesOf.mp member
    obtain ⟨values, leads, rfl⟩ := (mem_ordered_cities set leadsState).mp inCities
    exact ⟨state, city, values, leads, found⟩
  · rintro ⟨state, city, values, leads, found⟩
    obtain ⟨inState, leadsState, -⟩ := Option.bind_eq_some_iff.mp
      ((follow?_append _ [state] [city]).symm.trans leads)
    obtain ⟨cities, rfl⟩ := set.states state inState leadsState
    have inCities := (mem_ordered_cities set leadsState).mpr ⟨values, leads, rfl⟩
    exact List.mem_flatMap.mpr ⟨_, (mem_ordered_states set).mpr ⟨cities, leadsState, rfl⟩,
      mem_entriesOf.mpr ⟨_, inCities, found⟩⟩

theorem entries_sorted (set : IsPriceSet kind document) {states : Fields}
    (root : document = .object states) :
    entries kind document.sorted = .ok (listed kind states) := by
  subst root
  refine entries_eq_ok ?_
  rintro ⟨state, value⟩ member
  obtain ⟨cities, leadsState, rfl⟩ := (mem_ordered_states set).mp member
  refine ⟨orderedFields cities, rfl, ?_⟩
  rintro ⟨city, value⟩ member
  obtain ⟨values, leads, rfl⟩ := (mem_ordered_cities set leadsState).mp member
  exact (readable_ordered set leads).1

/-- Within a state the entries ascend by their cities. -/
theorem pairwise_entriesOf {state : String} {cities : Fields}
    (names : (cities.map Prod.fst).Nodup) :
    (entriesOf kind (state, .object (orderedFields cities))).Pairwise
      fun a b => a.place < b.place := by
  refine List.pairwise_filterMap.mpr ((pairwise_orderedFields names).imp ?_)
  intro city city' before entry found entry' found'
  obtain ⟨sameState, sameCity⟩ := of_entryAt?_eq_some found
  obtain ⟨sameState', sameCity'⟩ := of_entryAt?_eq_some found'
  refine Prod.Lex.toLex_lt_toLex.mpr (.inr ⟨sameState.trans sameState'.symm, ?_⟩)
  simpa only [sameCity, sameCity'] using before

theorem state_of_mem_entriesOf {state : String × Json} {entry : Entry}
    (member : entry ∈ entriesOf kind state) : entry.state = state.1 := by
  obtain ⟨city, -, found⟩ := List.mem_filterMap.mp member
  exact (of_entryAt?_eq_some found).1

theorem pairwise_listed (set : IsPriceSet kind document) {states : Fields}
    (root : document = .object states) :
    (listed kind states).Pairwise fun a b => a.place < b.place := by
  subst root
  refine List.pairwise_flatMap.mpr ⟨?_, ?_⟩
  · rintro ⟨state, value⟩ member
    obtain ⟨cities, leads, rfl⟩ := (mem_ordered_states set).mp member
    exact pairwise_entriesOf (set.names [state] cities leads)
  · refine (pairwise_orderedFields (set.names [] states rfl)).imp ?_
    intro state state' before entry member entry' member'
    refine Prod.Lex.toLex_lt_toLex.mpr (.inl ?_)
    simpa only [state_of_mem_entriesOf member, state_of_mem_entriesOf member'] using before

/-- The entries of a data set whose members were put in order: strictly ascending, and one for just
the cities that have a price. -/
theorem exists_entries_sorted (set : IsPriceSet kind document) :
    ∃ list, entries kind document.sorted = .ok list ∧
      (list.Pairwise fun a b => a.place < b.place) ∧
      (∀ entry ∈ list,
        document.follow? [entry.state, entry.city, kind] = some (.float entry.price)) ∧
      ∀ state city price, document.follow? [state, city, kind] = some (.float price) →
        ∃ entry ∈ list, entry.state = state ∧ entry.city = city := by
  obtain ⟨states, root⟩ := set.root
  refine ⟨listed kind states, entries_sorted set root, pairwise_listed set root, ?_, ?_⟩
  · intro entry member
    obtain ⟨state, city, values, leads, found⟩ := (mem_listed set root).mp member
    obtain ⟨rfl, rfl⟩ := of_entryAt?_eq_some found
    rw [← (readable_ordered set leads).2, found]
    rfl
  · intro state city price priced
    obtain ⟨inCity, leads, -⟩ := Option.bind_eq_some_iff.mp
      ((follow?_append _ [state, city] [kind]).symm.trans priced)
    obtain ⟨values, rfl⟩ := set.cities state city inCity leads
    have read := (readable_ordered set leads).2
    rw [priced] at read
    obtain ⟨entry, found, -⟩ := Option.map_eq_some_iff.mp read
    exact ⟨entry, (mem_listed set root).mpr ⟨state, city, values, leads, found⟩,
      of_entryAt?_eq_some found⟩

end

end JourneyCost.Fuel
