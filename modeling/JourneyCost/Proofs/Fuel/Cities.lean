import JourneyCost.Proofs.Fuel.Entries
import JourneyCost.Proofs.Fuel.Reading
import JourneyCost.Proofs.Json.Distinct

/-!
# The cities of a data set

The cities of a data set whose names are distinct are the objects at the ends of paths of two
names.  They are listed in the order of the data set, so they ascend when the members of the data
set were put in order.
-/

namespace JourneyCost.Fuel

open Json

/-- The place of a city in the order of states and cities. -/
def City.place (city : City) : String ×ₗ String := toLex (city.state, city.name)

theorem City.place_eq_iff {city other : City} :
    city.place = other.place ↔ city.state = other.state ∧ city.name = other.name := by
  rw [City.place, City.place, toLex_inj, Prod.mk.injEq]

theorem cities_cons (state : String × Json) (rest : Fields) :
    cities (state :: rest) = citiesOf state ++ cities rest := List.flatMap_cons

theorem mem_citiesOf {state : String × Json} {city : City} :
    city ∈ citiesOf state ↔ state.1 = city.state ∧
      ∃ inside, state.2 = .object inside ∧ (city.name, .object city.values) ∈ inside := by
  obtain ⟨state, value⟩ := state
  obtain ⟨owner, name, values⟩ := city
  cases value with
  | object inside =>
      simp only [citiesOf, fields?, Option.getD_some, List.mem_filterMap, Option.map_eq_some_iff,
        City.mk.injEq, Json.object.injEq, exists_eq_left']
      constructor
      · rintro ⟨⟨name, value⟩, member, fields, isObject, rfl, rfl, rfl⟩
        cases value with
        | object members =>
            obtain rfl := Option.some.inj isObject
            exact ⟨rfl, member⟩
        | null | bool | int | float | text | list => cases isObject
      · rintro ⟨rfl, member⟩
        exact ⟨_, member, values, rfl, rfl, rfl, rfl⟩
  | null | bool | int | float | text | list => simp [citiesOf, fields?]

theorem mem_cities {states : Fields} {city : City} :
    city ∈ cities states ↔ ∃ inside, (city.state, .object inside) ∈ states ∧
      (city.name, .object city.values) ∈ inside := by
  rw [cities, List.mem_flatMap]
  constructor
  · rintro ⟨⟨state, value⟩, member, found⟩
    obtain ⟨rfl, inside, rfl, inState⟩ := mem_citiesOf.mp found
    exact ⟨inside, member, inState⟩
  · rintro ⟨inside, member, inState⟩
    exact ⟨_, member, mem_citiesOf.mpr ⟨rfl, inside, rfl, inState⟩⟩

/-- The cities are the objects at the ends of paths of two names. -/
theorem mem_cities_iff_follow? {states : Fields} (distinct : (Json.object states).Distinct)
    {city : City} : city ∈ cities states ↔
      (Json.object states).follow? [city.state, city.name] = some (.object city.values) := by
  have names : (states.map Prod.fst).Nodup := distinct [] states rfl
  rw [mem_cities, follow?_pair_eq_some_iff]
  refine exists_congr fun inside => ?_
  rw [Fields.find?_eq_some_iff names]
  refine and_congr_right fun member => ?_
  have leads : (Json.object states).follow? [city.state] = some (.object inside) :=
    (follow?_singleton states city.state).trans ((Fields.find?_eq_some_iff names).mpr member)
  rw [Fields.find?_eq_some_iff (distinct _ inside leads)]

/-- The entries of a data set are what its cities give. -/
theorem mem_entries_iff {states : Fields} {kind : String} {found : List Entry}
    (read : entries kind (.object states) = .ok found) {entry : Entry} :
    entry ∈ found ↔ ∃ city ∈ cities states, IsEntry kind city entry := by
  rw [entries_eq_readCities, readCities] at read
  obtain ⟨answers, answered, made⟩ := bind_eq_ok.mp read
  obtain rfl : answers.filterMap id = found := Except.ok.inj made
  simp only [List.mem_filterMap, id_eq, exists_eq_right, mem_iff_of_mapM answered]
  refine exists_congr fun city => and_congr_right fun member => ?_
  obtain ⟨answer, given⟩ := readable_of_mapM answered city member
  rw [← eq_some_iff_of_entry given, given, Except.ok.injEq]

/-- What holds between the names of members, one after another, holds between cities. -/
theorem pairwise_cities {states : Fields} (before : String → String → Prop)
    (names : states.Pairwise fun a b => before a.1 b.1)
    (inside : ∀ state fields, (state, Json.object fields) ∈ states →
      fields.Pairwise fun a b => before a.1 b.1) :
    (cities states).Pairwise fun a b =>
      before a.state b.state ∨ a.state = b.state ∧ before a.name b.name := by
  refine List.pairwise_flatMap.mpr ⟨?_, names.imp ?_⟩
  · rintro ⟨state, value⟩ member
    cases value with
    | object fields =>
        refine List.pairwise_filterMap.mpr ((inside state fields member).imp ?_)
        rintro ⟨name, value⟩ ⟨name', value'⟩ order city made city' made'
        obtain ⟨values, -, rfl⟩ := Option.map_eq_some_iff.mp made
        obtain ⟨values', -, rfl⟩ := Option.map_eq_some_iff.mp made'
        exact .inr ⟨rfl, order⟩
    | null | bool | int | float | text | list => exact List.Pairwise.nil
  · intro state state' order city member city' member'
    obtain ⟨same, -⟩ := mem_citiesOf.mp member
    obtain ⟨same', -⟩ := mem_citiesOf.mp member'
    exact .inl (same ▸ same' ▸ order)

section

variable {states : Fields} (distinct : (Json.object states).Distinct)

include distinct

theorem nodup_names {state : String} {fields : Fields} (member : (state, .object fields) ∈ states) :
    (fields.map Prod.fst).Nodup := by
  have found := (Fields.find?_eq_some_iff (distinct [] states rfl)).mpr member
  exact distinct [state] fields ((follow?_singleton states state).trans found)

/-- No two cities have one place. -/
theorem pairwise_place_cities : (cities states).Pairwise fun a b => a.place ≠ b.place := by
  refine (pairwise_cities (· ≠ ·) (List.pairwise_map.mp (distinct [] states rfl))
    fun state fields member => List.pairwise_map.mp (nodup_names distinct member)).imp ?_
  intro city city' apart same
  obtain ⟨sameState, sameName⟩ := City.place_eq_iff.mp same
  rcases apart with state | ⟨-, name⟩
  · exact state sameState
  · exact name sameName

/-- The cities of a data set with its members in order ascend. -/
theorem pairwise_cities_ordered :
    (cities (orderedFields states)).Pairwise fun a b => a.place < b.place := by
  refine (pairwise_cities (· < ·) (pairwise_orderedFields (distinct [] states rfl))
    ?_).imp fun order => Prod.Lex.toLex_lt_toLex.mpr order
  intro state fields member
  obtain ⟨inner, inStates, same⟩ := mem_orderedFields.mp member
  cases inner with
  | object inside =>
      obtain rfl : orderedFields inside = fields := Json.object.inj same
      exact pairwise_orderedFields (nodup_names distinct inStates)
  | null | bool | int | float | text | list => simp [sorted] at same

end

end JourneyCost.Fuel
