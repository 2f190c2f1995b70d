import JourneyCost.Proofs.Json.RoundTrip
import JourneyCost.Proofs.Upkeep.Lookup
import JourneyCost.Proofs.Upkeep.ReadBack

/-!
# Data sets with positions filled in

To fill in the position of a city is to put it at the end of a path of three names.  So every city
that was found has its position, and what lies on no way to such a position is as it was.  Prices
are loaded with the positions that were filled in.
-/

namespace JourneyCost.Upkeep

open Data Files Json
open Fuel (City cities)

/-- What is put at the end of which path. -/
def positionWrites (answered : List (City × Option Point)) : List (List String × Json) :=
  answered.filterMap fun answer => answer.2.map fun place =>
    (positionPath answer.1.state answer.1.name, positionFields place.latitude place.longitude)

/-- What the answers make of a data set, up to the order of members. -/
structure IsLocated (answered : List (City × Option Point)) (before after : Json) : Prop where
  /-- A city for which there was a point has just this point for its position. -/
  positions : ∀ city place, (city, some place) ∈ answered →
    after.follow? (positionPath city.state city.name) =
      some (positionFields place.latitude place.longitude)
  /-- Every value elsewhere is what it was, and nothing is where nothing was. -/
  kept : ∀ path, (∀ city place, (city, some place) ∈ answered →
      Apart (positionPath city.state city.name) path) →
    after.follow? path = (before.follow? path).map sorted

theorem mem_positionWrites {answered : List (City × Option Point)} {write : List String × Json} :
    write ∈ positionWrites answered ↔ ∃ city place, (city, some place) ∈ answered ∧
      write = (positionPath city.state city.name,
        positionFields place.latitude place.longitude) := by
  simp only [positionWrites, List.mem_filterMap, Option.map_eq_some_iff, Prod.exists]
  constructor
  · rintro ⟨city, answer, member, place, rfl, rfl⟩
    exact ⟨city, place, member, rfl⟩
  · rintro ⟨city, place, member, rfl⟩
    exact ⟨city, some place, member, place, rfl, rfl⟩

theorem length_of_mem_positionWrites {answered : List (City × Option Point)}
    {write : List String × Json} (member : write ∈ positionWrites answered) :
    write.1.length = 3 := by
  obtain ⟨city, place, -, rfl⟩ := mem_positionWrites.mp member
  rfl

/-- A member that is changed is put in the place where it was. -/
theorem changeMember_of_find? {fields : Fields} {key : String} {value : Json}
    (names : (fields.map Prod.fst).Nodup) (found : Fields.find? fields key = some value)
    (f : Json → Json) :
    changeMember key f (.object fields) = .object (Fields.put fields key (f value)) := by
  rw [changeMember]
  congr 1
  induction fields with
  | nil => cases found
  | cons field rest induction =>
      obtain ⟨k, v⟩ := field
      rw [List.map_cons, List.nodup_cons] at names
      rw [Fields.find?_cons] at found
      by_cases here : key = k
      · subst here
        obtain rfl : v = value := by simpa using found
        have others : ∀ other ∈ rest, (if other.1 == key then (other.1, f other.2) else other) =
            other := by
          intro other member
          have different : other.1 ≠ key := fun same =>
            names.1 (List.mem_map.mpr ⟨other, member, same⟩)
          simp [different]
        rw [List.map_cons, List.map_congr_left others, List.map_id']
        simp [Fields.put]
      · rw [if_neg here] at found
        rw [List.map_cons, induction names.2 found]
        simp [Fields.put, beq_false_of_ne (Ne.symm here)]

section

variable {document after : Json} {state city : String} {values : Fields}

/-- To set the position of a city is to put it at the end of the path to the position. -/
theorem graft?_setPosition (distinct : document.Distinct)
    (leads : document.follow? [state, city] = some (.object values)) (place : Point) :
    graft? (positionFields place.latitude place.longitude) document (positionPath state city) =
      some (setPosition document ⟨state, city⟩ place) := by
  cases document with
  | null | bool | int | float | text | list => cases leads
  | object states =>
      obtain ⟨inside, inStates, inState⟩ := follow?_pair_eq_some_iff.mp leads
      have leadsState : (Json.object states).follow? [state] = some (.object inside) :=
        (follow?_singleton states state).trans inStates
      rw [setPosition, changeMember_of_find? (distinct [] states rfl) inStates,
        changeMember_of_find? (distinct [state] inside leadsState) inState]
      simp [positionPath, graft?, inStates, inState, putMember]

/-- A city is still there after a position was put at the end of some path. -/
theorem exists_city_of_graft? {place : Json} {other other' : String}
    (grafted : graft? place document (positionPath other other') = some after)
    (leads : document.follow? [state, city] = some (.object values)) :
    ∃ values', after.follow? [state, city] = some (.object values') := by
  by_cases way : [state, city] <+: positionPath other other'
  · exact follow?_graft?_way grafted way (by simp [positionPath])
  · have apart : Apart (positionPath other other') [state, city] :=
      ⟨fun onward => absurd onward.length_le (by simp [positionPath]), way⟩
    exact ⟨values, (follow?_graft?_apart grafted apart).trans leads⟩

end

section

variable {answered : List (City × Option Point)}

/-- Every city that was asked for is an object of the data set. -/
def Holds (document : Json) (answered : List (City × Option Point)) : Prop :=
  ∀ answer ∈ answered,
    ∃ values, document.follow? [answer.1.state, answer.1.name] = some (.object values)

/-- The answers are taken in by putting positions at the ends of paths. -/
theorem graftAll?_addAll (progress : Located) (distinct : progress.document.Distinct)
    (holds : Holds progress.document answered) :
    graftAll? progress.document (positionWrites answered) =
      some (progress.addAll answered).document := by
  induction answered generalizing progress with
  | nil => rfl
  | cons answer more induction =>
      obtain ⟨city, answer⟩ := answer
      obtain ⟨⟨values, leads⟩, others⟩ := List.forall_mem_cons.mp holds
      cases answer with
      | none => exact induction (progress.add (keyOf city) none) distinct others
      | some place =>
          have step := graft?_setPosition distinct leads place
          have still : Holds (progress.add (keyOf city) (some place)).document more :=
            fun other member => by
              obtain ⟨values, there⟩ := others other member
              exact exists_city_of_graft? step there
          have after := induction (progress.add (keyOf city) (some place))
            (distinct_graft? step distinct (distinct_positionFields _ _)) still
          change (graft? _ progress.document _).bind (fun next => graftAll? next _) = _
          rw [step, Option.bind_some]
          exact after

variable {document : Json} (distinct : document.Distinct) (holds : Holds document answered)

include distinct holds

theorem graftAll?_locatedDocument :
    graftAll? document (positionWrites answered) = some (locatedDocument document answered) :=
  graftAll?_addAll ⟨document, 0, 0⟩ distinct holds

theorem distinct_locatedDocument : (locatedDocument document answered).Distinct := by
  refine distinct_graftAll? (graftAll?_locatedDocument distinct holds) distinct ?_
  intro write member
  obtain ⟨city, place, -, rfl⟩ := mem_positionWrites.mp member
  exact distinct_positionFields place.latitude place.longitude

theorem follow?_locatedDocument (once : (answered.map fun answer => answer.1.place).Nodup)
    {city : City} {place : Point} (member : (city, some place) ∈ answered) :
    (locatedDocument document answered).follow? (positionPath city.state city.name) =
      some (positionFields place.latitude place.longitude) := by
  obtain ⟨write, written, here, value⟩ :=
    follow?_graftAll?_mem (graftAll?_locatedDocument distinct holds)
      (fun write member => (length_of_mem_positionWrites member).trans rfl)
      ⟨_, mem_positionWrites.mpr ⟨city, place, member, rfl⟩, rfl⟩
  obtain ⟨other, place', member', rfl⟩ := mem_positionWrites.mp written
  simp only [positionPath, List.cons.injEq, and_true] at here
  have same : (other, some place') = (city, some place) :=
    List.inj_on_of_nodup_map once member' member (Fuel.City.place_eq_iff.mpr here)
  obtain ⟨-, same⟩ := Prod.mk.inj same
  rw [value, Option.some.inj same]

/-- A data set with its positions filled in, when its members were put in order. -/
theorem isLocated_sorted (once : (answered.map fun answer => answer.1.place).Nodup) :
    IsLocated answered document (locatedDocument document answered).sorted where
  positions city place member := by
    rw [follow?_sorted (distinct_locatedDocument distinct holds),
      follow?_locatedDocument distinct holds once member, Option.map_some, sorted_positionFields]
  kept path apart := by
    rw [follow?_sorted (distinct_locatedDocument distinct holds),
      follow?_graftAll?_apart (graftAll?_locatedDocument distinct holds)]
    intro write written
    obtain ⟨city, place, member, rfl⟩ := mem_positionWrites.mp written
    exact apart city place member

end

section

variable {arguments : Arguments} {states : Fields} {answered : List (City × Option Point)}
  (distinct : (Json.object states).Distinct)
  (which : answered.map Prod.fst = wanted arguments states)

include distinct which

theorem holds_of_wanted : Holds (.object states) answered := by
  intro answer member
  have asked : answer.1 ∈ wanted arguments states := which ▸ List.mem_map_of_mem member
  have listed : answer.1 ∈ cities states := (List.mem_filter.mp (List.mem_of_mem_take asked)).1
  exact ⟨answer.1.values, (Fuel.mem_cities_iff_follow? distinct).mp listed⟩

/-- No city is asked for twice. -/
theorem nodup_place_of_wanted : (answered.map fun answer => answer.1.place).Nodup := by
  have some_ : (wanted arguments states).Sublist (cities states) :=
    (List.take_sublist _ _).trans List.filter_sublist
  have apart := (Fuel.pairwise_place_cities distinct).sublist some_
  rw [← which] at apart
  have places : (answered.map fun answer => answer.1.place) =
      (answered.map Prod.fst).map City.place := by rw [List.map_map]; rfl
  rw [places]
  exact List.pairwise_map.mpr apart

end

/-! ## Loading what was written -/

theorem positionOf_positionFields (place : Point) :
    Geo.positionOf (positionFields place.latitude place.longitude) = .ok (some place) := rfl

/-- The entries of a city with a position that was put there have this position. -/
theorem location_of_mem_entries {document : Json} {kind : String} {found : List Fuel.Entry}
    {entry : Fuel.Entry} {place : Point} (distinct : document.Distinct)
    (read : Fuel.entries kind document = .ok found) (member : entry ∈ found)
    (leads : document.follow? (positionPath entry.state entry.city) =
      some (positionFields place.latitude place.longitude)) :
    entry.location = some place := by
  cases document with
  | null | bool | int | float | text | list => cases leads
  | object states =>
      obtain ⟨city, listed, isEntry⟩ := (Fuel.mem_entries_iff read).mp member
      have here := (Fuel.mem_cities_iff_follow? distinct).mp listed
      rw [positionPath, isEntry.state, isEntry.name] at leads
      have position : Fields.find? city.values "location" =
          some (positionFields place.latitude place.longitude) :=
        (follow?_concat_of_object here "location").symm.trans leads
      rw [isEntry.location, ← Geo.positionOf_eq_some_iff, Fields.get, position, Option.getD_some]
      exact positionOf_positionFields place

section

variable {files : Files} {path : String} {document : Json}

theorem readable_of_readDocument (held : readDocument files path = .ok document) :
    document.Readable := by
  obtain ⟨s, -, read⟩ := bind_eq_ok.mp held
  exact readable_of_read read

theorem distinct_of_readDocument (held : readDocument files path = .ok document) :
    document.Distinct :=
  distinct_of_readable (readable_of_readDocument held)

/-- What is written after cities were looked up is read as the data set with its positions. -/
theorem readDocument_of_written {files' : Files} {answered : List (City × Option Point)}
    (held : readDocument files path = .ok document) (holds : Holds document answered)
    (written : files.write path (Text.toBytes (locatedDocument document answered).pretty) =
      .ok files') :
    readDocument files' path = .ok (locatedDocument document answered).sorted := by
  refine readDocument_of_readText (readText_of_read (read_write written)) (read_pretty
    (readable_graftAll? (graftAll?_locatedDocument (distinct_of_readDocument held) holds)
      (readable_of_readDocument held) fun write member => ?_))
  obtain ⟨city, place, -, rfl⟩ := mem_positionWrites.mp member
  exact readable_positionFields place.latitude place.longitude

theorem readDocument_congr {other : String} (leads : files.locate path = files.locate other) :
    readDocument files path = readDocument files other := by
  rw [readDocument, readDocument, readText, readText, read_congr leads]

end

/-- A data set with a city without anything and one with a price. -/
def coastDataset : String :=
  "\x7b\"Goa\": \x7b\"Margao\": \x7b\x7d, \"Panaji\": \x7b\"diesel\": 90.5\x7d\x7d\x7d"

/-- The states of the data set. -/
def coastStates : Fields :=
  [("Goa", .object [("Margao", .object []), ("Panaji", .object [("diesel", .float 90.5)])])]

/-- A wire that knows one of the cities, and on which nobody replies. -/
def coastWire : Net.Wire := ⟨[], [], [(⟨"ola", "panaji, goa, india"⟩, ⟨73.8, 15.5⟩)], true⟩

/-- What is found for the cities. -/
def coastAnswers : List (City × Option Point) :=
  [(⟨"Goa", "Margao", []⟩, none),
    (⟨"Goa", "Panaji", [("diesel", .float 90.5)]⟩, some ⟨73.8, 15.5⟩)]

theorem read_coast : Json.read coastDataset = .ok (.object coastStates) := rfl

theorem placeKey_coast :
    usualClient.placeKey (cityQuery ⟨"Goa", "Margao"⟩) = ⟨"ola", "margao, goa, india"⟩ ∧
      usualClient.placeKey (cityQuery ⟨"Goa", "Panaji"⟩) = ⟨"ola", "panaji, goa, india"⟩ := by
  decide +kernel

theorem known_coastWire :
    coastWire.known? (usualClient.placeKey (cityQuery ⟨"Goa", "Margao"⟩)) = none ∧
      coastWire.known? (usualClient.placeKey (cityQuery ⟨"Goa", "Panaji"⟩)) =
        some ⟨73.8, 15.5⟩ := by
  rw [placeKey_coast.1, placeKey_coast.2]
  exact ⟨rfl, rfl⟩

theorem looksUp_coast : LooksUp usualClient coastWire coastAnswers
    (coastWire.afterCall (usualClient.geocodeCall (cityQuery ⟨"Goa", "Margao"⟩))) :=
  .cons (asks_of_silence known_coastWire.1 rfl) (.cons (asks_of_known known_coastWire.2) (.nil _))

theorem cityLimit_namedDataset : cityLimit namedDataset = 50 := by decide +kernel

theorem wanted_coast : wanted namedDataset coastStates = coastAnswers.map Prod.fst := by
  rw [wanted, cityLimit_namedDataset]
  rfl

theorem wanted_coast_ne_nil : wanted namedDataset coastStates ≠ [] := by
  rw [wanted_coast]
  exact List.cons_ne_nil _ _

/-- The command changes only what it looked up.  It asks for the first cities without a position,
each one once and in the order of the data set, and prints for how many of them there was a point
and for how many there was none.  If there is no such city, nothing is asked and nothing is changed.
Otherwise the data set in the file is the one from before with the positions that were found, and
prices are loaded with these positions. -/
theorem locateCities_locates {settings : Settings} {line : List String} {arguments : Arguments}
    {shop shop' : Shop} {text : String}
    (understood : Arguments.read locateOptions line = .ok arguments)
    (completed : (locateCities settings line).run shop = (.ok text, shop')) :
    ∃ states,
      readDocument shop.files (normalPath (datasetPath settings arguments)) =
        .ok (.object states) ∧
      (wanted arguments states = [] →
        shop' = shop ∧ text = printed arguments .warning "No cities to geocode") ∧
      (wanted arguments states ≠ [] → ∃ client answered,
        Map.Client.create settings (arguments.get? "--provider") = .ok client ∧
        answered.map Prod.fst = wanted arguments states ∧
        LooksUp client shop.desk.wire answered shop'.desk.wire ∧
        text = printed arguments .good ("Geocode run complete: " ++
          toString (answered.countP (·.2.isSome)) ++ " succeeded, " ++
          toString (answered.countP (·.2.isNone)) ++ " failed (limit=" ++
          toString (cityLimit arguments) ++ ")") ∧
        ∃ document,
          readDocument shop'.files (normalPath (datasetPath settings arguments)) =
            .ok document ∧
          IsLocated answered (.object states) document ∧
          ∀ path kind found, shop'.files.locate path =
              shop'.files.locate (normalPath (datasetPath settings arguments)) →
            ((Library.loadPrices shop'.files path kind).run shop'.desk.library).1 = .ok found →
            ∀ entry ∈ found, ∀ city place, (city, some place) ∈ answered →
              entry.state = city.state → entry.city = city.name →
              entry.location = some place) := by
  obtain ⟨states, held, located⟩ := locatesIn_of_run understood completed
  refine ⟨states, held, ?_⟩
  cases located with
  | idle nothing => exact ⟨fun _ => ⟨rfl, rfl⟩, fun something => absurd nothing something⟩
  | @located client answered _ something created which lookups written library =>
      have distinct := distinct_of_readDocument held
      have holds := holds_of_wanted distinct which
      have located := isLocated_sorted distinct holds (nodup_place_of_wanted distinct which)
      have read := readDocument_of_written held holds written
      refine ⟨fun nothing => absurd nothing something, fun _ =>
        ⟨client, answered, created, which, lookups, rfl, _, read, located, ?_⟩⟩
      intro path kind found leads loaded entry member city place given sameState sameCity
      rw [library, loadPrices_empty,
        pricesIn_of_readDocument ((readDocument_congr leads).trans read)] at loaded
      refine location_of_mem_entries (distinct_of_readDocument read) loaded member ?_
      rw [sameState, sameCity]
      exact located.positions city place given

/-- On the coast one of two cities is found, and its position is in the file. -/
theorem locateCities_locates_coast :
    Arguments.read locateOptions ["--path", "d"] = .ok namedDataset ∧
      ∃ text shop',
        (locateCities {} ["--path", "d"]).run (shopWith coastDataset coastWire) =
          (.ok text, shop') ∧
        text = "Geocode run complete: 1 succeeded, 1 failed (limit=50)\n" ∧
        ∃ document, readDocument shop'.files "d" = .ok document ∧
          IsLocated coastAnswers (.object coastStates) document := by
  obtain ⟨text, shop', completed⟩ := exists_run_shopWith read_coast rfl wanted_coast_ne_nil
    wanted_coast.symm looksUp_coast
  obtain ⟨states, held, -, asked⟩ := locateCities_locates understood_namedDataset completed
  rw [path_namedDataset, readDocument_eq, readText_shopWith, ok_bind, read_coast] at held
  rw [path_namedDataset] at asked
  obtain rfl : coastStates = states := Json.object.inj (Except.ok.inj held)
  obtain ⟨client, answered, created, which, lookups, printed, document, read, isLocated, -⟩ :=
    asked wanted_coast_ne_nil
  obtain rfl : client = usualClient := Except.ok.inj (created.symm.trans create_usualClient)
  obtain rfl : answered = coastAnswers := lookups.unique looksUp_coast (which.trans wanted_coast)
  have line : text = "Geocode run complete: 1 succeeded, 1 failed (limit=50)\n" := by
    rw [printed]
    decide +kernel
  exact ⟨understood_namedDataset, text, shop', completed, line, document, read, isLocated⟩

end JourneyCost.Upkeep
