import JourneyCost.Fuel.Estimate
import JourneyCost.Proofs.Fuel.Cities

/-!
# Data sets in another order

When the members of a data set are put in order, and only positions are changed, the same cities
have the same prices, but the entries come in the order of states and cities.  An estimate depends
on the entries only by what they say without positions, in the order in which they come.
-/

namespace JourneyCost

theorem Fields.find?_of_get_ne_null {fields : Fields} {key : String}
    (present : fields.get key ≠ .null) : fields.find? key = some (fields.get key) := by
  rw [Fields.get] at present ⊢
  cases there : fields.find? key with
  | none => simp [there] at present
  | some value => rfl

namespace Json

theorem toNumber_sorted (value : Json) : value.sorted.toNumber = value.toNumber := by
  cases value <;> rfl

theorem isHuge_sorted_iff {value : Json} : value.sorted.IsHuge ↔ value.IsHuge := by
  cases value <;> exact Iff.rfl

theorem firstPresent?_orderedFields {fields : Fields} (names : (fields.map Prod.fst).Nodup)
    (keys : List String) :
    Fields.firstPresent? (orderedFields fields) keys =
      (fields.firstPresent? keys).map sorted := by
  induction keys with
  | nil => rfl
  | cons key more induction =>
      rw [Fields.firstPresent?] at induction
      rw [Fields.firstPresent?, Fields.firstPresent?, List.findSome?_cons, List.findSome?_cons,
        find?_orderedFields names, induction]
      cases Fields.find? fields key with
      | none => rfl
      | some value => cases value <;> rfl

/-- A position is read alike from members in any order. -/
theorem positionOf_sorted {value : Json} (distinct : value.Distinct) :
    Geo.positionOf value.sorted = Geo.positionOf value := by
  cases value with
  | null | bool | int | float | text | list => rfl
  | object fields =>
      have names : (fields.map Prod.fst).Nodup := distinct [] fields rfl
      change Geo.namedPosition (orderedFields fields) = Geo.namedPosition fields
      rw [Geo.namedPosition, Geo.namedPosition, firstPresent?_orderedFields names,
        firstPresent?_orderedFields names]
      cases Fields.firstPresent? fields Geo.latitudeKeys with
      | none => rfl
      | some latitude =>
          cases Fields.firstPresent? fields Geo.longitudeKeys with
          | none => rfl
          | some longitude =>
              simp only [Option.map_some, Geo.readPoint, toNumber_sorted]

theorem hugePosition_sorted_iff {value : Json} (distinct : value.Distinct) :
    Geo.HugePosition value.sorted ↔ Geo.HugePosition value := by
  have sorted : Geo.positionOf value.sorted = .error .overflow ↔
      Fault.overflow = .overflow ∧ Geo.HugePosition value.sorted := Geo.positionOf_eq_error_iff
  rw [positionOf_sorted distinct, Geo.positionOf_eq_error_iff] at sorted
  simpa using sorted.symm

end Json

namespace Fuel

open Json

/-- What an entry says without the position. -/
def Entry.listing (entry : Entry) : String × String × Float :=
  (entry.state, entry.city, entry.price)

/-- The entry that a city gives, if it gives one. -/
def City.entry? (kind : String) (city : City) : Option Entry := (city.entry kind).toOption.join

theorem City.entry?_eq_some_iff {kind : String} {city : City} {entry : Entry} :
    city.entry? kind = some entry ↔ city.entry kind = .ok (some entry) := by
  rw [City.entry?, Option.join_eq_some_iff, toOption_eq_some_iff]

section

variable {kind : String} {states : Fields} {found : List Entry}

theorem exists_entry_of_mem (read : entries kind (.object states) = .ok found) {city : City}
    (listed : city ∈ cities states) : ∃ answer, city.entry kind = .ok answer := by
  rw [entries_eq_readCities, readCities] at read
  obtain ⟨answers, answered, -⟩ := bind_eq_ok.mp read
  exact readable_of_mapM answered city listed

theorem entries_eq_filterMap (read : entries kind (.object states) = .ok found) :
    found = (cities states).filterMap (City.entry? kind) := by
  rw [entries_eq_readCities, readCities] at read
  obtain ⟨answers, answered, made⟩ := bind_eq_ok.mp read
  rw [← Except.ok.inj made]
  have matched := forall₂_of_mapM answered
  clear answered made read
  generalize cities states = listed at matched
  induction matched with
  | nil => rfl
  | @cons city answer more answers here _ induction =>
      have first : City.entry? kind city = answer := by
        rw [City.entry?, here]
        cases answer <;> rfl
      rw [List.filterMap_cons, List.filterMap_cons, first, induction]
      rfl

/-- What holds between the places of cities, one after another, holds between entries. -/
theorem pairwise_entries (read : entries kind (.object states) = .ok found)
    (before : String ×ₗ String → String ×ₗ String → Prop)
    (ordered : (cities states).Pairwise fun a b => before a.place b.place) :
    found.Pairwise fun a b => before a.place b.place := by
  have place : ∀ {city : City} {entry : Entry}, City.entry? kind city = some entry →
      entry.place = city.place := by
    intro city entry given
    have isEntry := isEntry_of_entry (City.entry?_eq_some_iff.mp given)
    rw [Entry.place, City.place, isEntry.state, isEntry.name]
  rw [entries_eq_filterMap read]
  refine List.pairwise_filterMap.mpr (ordered.imp ?_)
  intro city city' order entry given entry' given'
  rw [place given, place given']
  exact order

variable (distinct : (Json.object states).Distinct)

include distinct

theorem follow?_of_mem_cities {city : City} (listed : city ∈ cities states) (key : String) :
    (Json.object states).follow? [city.state, city.name, key] = city.values.find? key :=
  follow?_concat_of_object ((mem_cities_iff_follow? distinct).mp listed) key

theorem exists_city_of_follow? {state name key : String} {value : Json}
    (leads : (Json.object states).follow? [state, name, key] = some value) :
    ∃ city ∈ cities states, city.state = state ∧ city.name = name ∧
      city.values.get key = value := by
  obtain ⟨inner, here, inside⟩ := Option.bind_eq_some_iff.mp
    ((follow?_append _ [state, name] [key]).symm.trans leads)
  cases inner with
  | object values =>
      rw [follow?_singleton] at inside
      exact ⟨⟨state, name, values⟩, (mem_cities_iff_follow? distinct).mpr here, rfl, rfl, by
        rw [Fields.get, inside, Option.getD_some]⟩
  | null | bool | int | float | text | list => cases inside

/-- Prices are listed where the data set has a number for the kind of fuel. -/
theorem mem_map_listing_iff (read : entries kind (.object states) = .ok found)
    {state name : String} {price : Float} :
    (state, name, price) ∈ found.map Entry.listing ↔
      ∃ value, (Json.object states).follow? [state, name, kind] = some value ∧
        value.toNumber = .ok price := by
  constructor
  · intro member
    obtain ⟨entry, inFound, same⟩ := List.mem_map.mp member
    obtain ⟨rfl, rfl, rfl⟩ : entry.state = state ∧ entry.city = name ∧ entry.price = price := by
      simpa [Entry.listing] using same
    obtain ⟨city, listed, isEntry⟩ := (mem_entries_iff read).mp inFound
    refine ⟨city.values.get kind, ?_, isEntry.price⟩
    rw [isEntry.state, isEntry.name, follow?_of_mem_cities distinct listed]
    refine Fields.find?_of_get_ne_null fun null => ?_
    have priced := isEntry.price
    rw [null] at priced
    cases priced
  · rintro ⟨value, leads, priced⟩
    obtain ⟨city, listed, rfl, rfl, rfl⟩ := exists_city_of_follow? distinct leads
    obtain ⟨answer, given⟩ := exists_entry_of_mem read listed
    rw [entry_of_priced priced] at given
    obtain ⟨position, placed, -⟩ := bind_eq_ok.mp given
    have made : city.entry kind = .ok (some ⟨city.state, city.name, price, position⟩) := by
      rw [entry_of_priced priced, placed]
      rfl
    exact List.mem_map.mpr
      ⟨_, (mem_entries_iff read).mpr ⟨city, listed, isEntry_of_entry made⟩, rfl⟩

theorem nodup_map_listing (read : entries kind (.object states) = .ok found) :
    (found.map Entry.listing).Nodup := by
  refine List.pairwise_map.mpr
    ((pairwise_entries read (· ≠ ·) (pairwise_place_cities distinct)).imp ?_)
  intro entry entry' apart same
  refine apart ?_
  simp only [Entry.listing, Prod.mk.injEq] at same
  rw [Entry.place, Entry.place, same.1, same.2.1]

end

/-- Prices are kept up to the order of members, and no position has become too large to read. -/
structure KeepsPrices (kind : String) (before after : Json) : Prop where
  /-- The prices. -/
  prices : ∀ state name,
    after.follow? [state, name, kind] = (before.follow? [state, name, kind]).map sorted
  /-- The positions. -/
  positions : ∀ state name value, after.follow? [state, name, "location"] = some value →
    Geo.HugePosition value → ∃ old, before.follow? [state, name, "location"] = some old ∧
      Geo.HugePosition old

section

variable {kind : String} {states states' : Fields} {old new : List Entry}
  (distinct : (Json.object states).Distinct) (distinct' : (Json.object states').Distinct)
  (keeps : KeepsPrices kind (.object states) (.object states'))

include distinct distinct' keeps

/-- A city that cannot be read could not be read before. -/
theorem exists_hugeCity_of_keepsPrices {city : City} (listed : city ∈ cities states')
    (huge : HugeCity kind city) : ∃ former ∈ cities states, HugeCity kind former := by
  have present : city.values.get kind ≠ .null := by
    intro null
    rcases huge with huge | ⟨price, priced, -⟩
    · exact absurd huge (by rw [null]; exact id)
    · rw [null] at priced
      cases priced
  have leads := follow?_of_mem_cities distinct' listed kind
  rw [Fields.find?_of_get_ne_null present, keeps.prices] at leads
  obtain ⟨value, before, same⟩ := Option.map_eq_some_iff.mp leads
  obtain ⟨former, member, sameState, sameName, rfl⟩ := exists_city_of_follow? distinct before
  refine ⟨former, member, ?_⟩
  rw [HugeCity, ← same, isHuge_sorted_iff, toNumber_sorted] at huge
  refine huge.imp_right ?_
  rintro ⟨price, priced, far⟩
  have placed : city.values.get "location" ≠ .null := by
    intro null
    obtain ⟨fields, longitude, latitude, isObject, -⟩ := far
    rw [null] at isObject
    cases isObject
  have location := follow?_of_mem_cities distinct' listed "location"
  rw [Fields.find?_of_get_ne_null placed] at location
  obtain ⟨position, leadsPosition, farBefore⟩ := keeps.positions _ _ _ location far
  rw [← sameState, ← sameName, follow?_of_mem_cities distinct member] at leadsPosition
  refine ⟨price, priced, ?_⟩
  rwa [Fields.get, leadsPosition, Option.getD_some]

/-- If the entries could be read before, they can be read now. -/
theorem exists_entries_of_keepsPrices (read : entries kind (.object states) = .ok old) :
    ∃ new, entries kind (.object states') = .ok new := by
  cases now : entries kind (.object states') with
  | ok new => exact ⟨new, rfl⟩
  | error fault =>
      obtain ⟨overflow, city, listed, huge⟩ := entries_eq_error_iff.mp now
      have failed : entries kind (.object states) = .error fault := entries_eq_error_iff.mpr
        ⟨overflow, exists_hugeCity_of_keepsPrices distinct distinct' keeps listed huge⟩
      exact absurd (read.symm.trans failed) (by simp)

/-- The same cities have the same prices. -/
theorem perm_map_listing_of_keepsPrices (read : entries kind (.object states) = .ok old)
    (read' : entries kind (.object states') = .ok new) :
    (new.map Entry.listing).Perm (old.map Entry.listing) := by
  refine (List.perm_ext_iff_of_nodup (nodup_map_listing distinct' read')
    (nodup_map_listing distinct read)).mpr ?_
  rintro ⟨state, name, price⟩
  rw [mem_map_listing_iff distinct' read', mem_map_listing_iff distinct read, keeps.prices]
  constructor
  · rintro ⟨_, leads, priced⟩
    obtain ⟨value, before, rfl⟩ := Option.map_eq_some_iff.mp leads
    exact ⟨value, before, (toNumber_sorted value).symm.trans priced⟩
  · rintro ⟨value, before, priced⟩
    exact ⟨value.sorted, by rw [before]; rfl, (toNumber_sorted value).trans priced⟩

end

section

variable {old new : List Entry}

/-- Entries that ascend are told apart from others by their order alone. -/
theorem map_listing_eq_of_ascending (same : (new.map Entry.listing).Perm (old.map Entry.listing))
    (ascending : new.Pairwise fun a b => a.place < b.place)
    (ascendingBefore : old.Pairwise fun a b => a.place < b.place) :
    new.map Entry.listing = old.map Entry.listing := by
  let before (a b : String × String × Float) : Prop :=
    toLex (a.1, a.2.1) < toLex (b.1, b.2.1)
  have listed : ∀ {entries : List Entry}, (entries.Pairwise fun a b => a.place < b.place) →
      (entries.map Entry.listing).Pairwise before := fun order => List.pairwise_map.mpr order
  refine same.eq_of_pairwise ?_ (listed ascending) (listed ascendingBefore)
  exact fun a b _ _ less greater => absurd less (lt_asymm greater)

theorem preferred?_map_listing (region : String) (prices : List Entry) :
    (preferred? region prices).map Entry.listing =
      ((prices.map Entry.listing).find? fun entry =>
        Text.lower entry.1 == Text.lower region).or (prices.map Entry.listing).head? := by
  rw [preferred?, List.find?_map, List.head?_map, ← Option.map_or]
  rfl

theorem atEntry_congr {entry entry' : Entry} (same : entry.listing = entry'.listing)
    (litres : Float) : atEntry litres entry = atEntry litres entry' := by
  simp only [Entry.listing, Prod.mk.injEq] at same
  rw [atEntry, atEntry, same.1, same.2.1, same.2.2]

/-- An estimate depends on what the entries say without positions. -/
theorem quote_congr (same : new.map Entry.listing = old.map Entry.listing) (pricing : Pricing)
    (offer : Offer) (litres : Float) :
    quote pricing offer new litres = quote pricing offer old litres := by
  have chosen : (preferred? pricing.region new).map Entry.listing =
      (preferred? pricing.region old).map Entry.listing := by
    rw [preferred?_map_listing, preferred?_map_listing, same]
  rw [quote, quote]
  cases named? offer.total with
  | some total => rfl
  | none =>
      cases named? offer.perLitre with
      | some price => rfl
      | none =>
          cases now : preferred? pricing.region new with
          | none =>
              rw [now, Option.map_none, eq_comm, Option.map_eq_none_iff] at chosen
              rw [chosen]
          | some entry =>
              rw [now, Option.map_some, eq_comm, Option.map_eq_some_iff] at chosen
              obtain ⟨entry', before, sameListing⟩ := chosen
              rw [before]
              exact congrArg Except.ok (atEntry_congr sameListing litres).symm

theorem estimate_congr (same : new.map Entry.listing = old.map Entry.listing) (pricing : Pricing)
    (offer : Offer) (distanceKm : Float) (mileage : Option Float) :
    estimate pricing offer (pure new : Except Fault _) distanceKm mileage =
      estimate pricing offer (pure old) distanceKm mileage := by
  rw [estimate, estimate]
  cases offer.needsPrices with
  | false => rfl
  | true => simp only [if_true, pure_bind, quote_congr same]

end

end Fuel

end JourneyCost
