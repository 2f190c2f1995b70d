import JourneyCost.Proofs.Data.Loading
import JourneyCost.Proofs.Fuel.Reordered
import JourneyCost.Proofs.Upkeep.Locating

/-!
# Prices after positions were filled in

The command that locates cities writes the data set with its members in order.  So the cities have
the prices that they had, but their order changes unless they were in order before, and the price of
a journey can change with it.
-/

namespace JourneyCost.Upkeep

open Data Files Json
open Fuel (City KeepsPrices)

section

variable {answered : List (City × Option Point)}

theorem Located.exists_addAll_object (progress : Located) {states : Fields}
    (isObject : progress.document = .object states) (answered : List (City × Option Point)) :
    ∃ states', (progress.addAll answered).document = .object states' := by
  induction answered generalizing progress states with
  | nil => exact ⟨states, isObject⟩
  | cons answer more induction =>
      obtain ⟨city, _ | place⟩ := answer
      · exact induction (progress.add (keyOf city) none) isObject
      · have changed : (progress.add (keyOf city) (some place)).document =
            setPosition (.object states) (keyOf city) place := by rw [Located.add, isObject]
        rw [setPosition, changeMember] at changed
        exact induction _ changed

theorem exists_locatedDocument_eq_object (states : Fields) (answered : List (City × Option Point)) :
    ∃ states', locatedDocument (.object states) answered = .object states' :=
  Located.exists_addAll_object ⟨.object states, 0, 0⟩ rfl answered

/-- Positions are no prices, and a position that was filled in can be read. -/
theorem keepsPrices_of_isLocated {before after : Json} {kind : String} (distinct : before.Distinct)
    (located : IsLocated answered before after) (fuel : kind ≠ "location") :
    KeepsPrices kind before after where
  prices state name := by
    refine located.kept _ fun city place _ => apart_of_length_eq rfl fun same => ?_
    simp only [positionPath, List.cons.injEq, and_true] at same
    exact fuel same.2.2.symm
  positions state name value leads huge := by
    by_cases given : ∃ city place, (city, some place) ∈ answered ∧
        positionPath city.state city.name = [state, name, "location"]
    · obtain ⟨city, place, member, here⟩ := given
      have position := located.positions city place member
      rw [here, leads] at position
      have read := Geo.positionOf_eq_error_iff.mpr ⟨rfl, huge⟩
      rw [Option.some.inj position, positionOf_positionFields] at read
      cases read
    · have kept := located.kept [state, name, "location"] fun city place member =>
        apart_of_length_eq rfl fun same => given ⟨city, place, member, same⟩
      rw [leads] at kept
      obtain ⟨old, there, rfl⟩ := Option.map_eq_some_iff.mp kept.symm
      exact ⟨old, there, (hugePosition_sorted_iff (distinct_of_follow? distinct there)).mp huge⟩

end

section

variable {files files' : Files} {dataset path kind : String} {states : Fields}
  {answered : List (City × Option Point)} {old new : List Fuel.Entry}
  (held : readDocument files dataset = .ok (.object states))
  (holds : Holds (.object states) answered)
  (written : files.write dataset
    (Text.toBytes (locatedDocument (.object states) answered).pretty) = .ok files')
  (once : (answered.map fun answer => answer.1.place).Nodup)

include held holds written

theorem exists_sorted_of_written :
    ∃ states', readDocument files' dataset = .ok (Json.object states').sorted ∧
      (Json.object states').Distinct ∧
      locatedDocument (.object states) answered = .object states' := by
  obtain ⟨states', isObject⟩ := exists_locatedDocument_eq_object states answered
  have distinct := distinct_locatedDocument (distinct_of_readDocument held) holds
  have read := readDocument_of_written held holds written
  rw [isObject] at distinct read
  exact ⟨states', read, distinct, isObject⟩

include once

/-- Prices from whatever path, after positions were filled in.  Prices from the data set have a new
order. -/
theorem exists_pricesIn_of_written (fuel : kind ≠ "location")
    (before : pricesIn files path kind = .ok old) :
    ∃ new, pricesIn files' path kind = .ok new ∧
      (new.map Fuel.Entry.listing).Perm (old.map Fuel.Entry.listing) ∧
      (files.locate path = files.locate dataset → new.Pairwise fun a b => a.place < b.place) ∧
      (files.locate path ≠ files.locate dataset → new = old) := by
  obtain ⟨text, there, -⟩ := bind_eq_ok.mp held
  obtain ⟨place, bytes, stands, isFile⟩ := exists_file_of_readText there
  obtain ⟨place', located, -, replaced⟩ := write_eq_ok written
  obtain rfl : place = place' := Except.ok.inj (stands.symm.trans located)
  by_cases leads : files.locate path = files.locate dataset
  · have leadsAfter : files'.locate path = files'.locate dataset := by
      rw [replaced, locate_replace isFile, locate_replace isFile, leads]
    obtain ⟨states', read, distinctAfter, isObject⟩ := exists_sorted_of_written held holds written
    have distinct := distinct_of_readDocument held
    have keeps := keepsPrices_of_isLocated distinct (isLocated_sorted distinct holds once) fuel
    rw [isObject] at keeps
    rw [pricesIn_of_readDocument ((readDocument_congr leads).trans held)] at before
    have distinctSorted := distinct_sorted distinctAfter
    obtain ⟨new, after⟩ :=
      Fuel.exists_entries_of_keepsPrices distinct distinctSorted keeps before
    exact ⟨new,
      (pricesIn_of_readDocument ((readDocument_congr leadsAfter).trans read)).trans after,
      Fuel.perm_map_listing_of_keepsPrices distinct distinctSorted keeps before after,
      fun _ => Fuel.pairwise_entries after (· < ·) (Fuel.pairwise_cities_ordered distinctAfter),
      fun elsewhere => absurd leads elsewhere⟩
  · refine ⟨old, ?_, .refl _, fun same => absurd same leads, fun _ => rfl⟩
    rw [located] at leads
    rw [pricesIn, documentIn, readDocument, replaced, readText_replace isFile leads]
    exact before

/-- A position that was filled in is no price. -/
theorem not_mem_listing_of_written {city : City} {place : Point} {price : Float}
    (found : (city, some place) ∈ answered)
    (loaded : pricesIn files' dataset "location" = .ok new) :
    (city.state, city.name, price) ∉ new.map Fuel.Entry.listing := by
  intro member
  obtain ⟨states', read, distinctAfter, isObject⟩ := exists_sorted_of_written held holds written
  have located := isLocated_sorted (distinct_of_readDocument held) holds once
  rw [isObject] at located
  rw [pricesIn_of_readDocument read] at loaded
  obtain ⟨value, leads, priced⟩ :=
    (Fuel.mem_map_listing_iff (distinct_sorted distinctAfter) loaded).mp member
  obtain rfl := Option.some.inj ((located.positions city place found).symm.trans leads)
  cases priced

end

theorem loadPrices_shopWith {dataset : String} {wire : Net.Wire} {document : Json} {kind : String}
    (read : Json.read dataset = .ok document) :
    ((Library.loadPrices (shopWith dataset wire).files "d" kind).run .empty).1 =
      Fuel.entries (fuelKind kind) document := by
  rw [loadPrices_empty, pricesIn_of_readDocument (readDocument_of_readText readText_shopWith read)]

/-! ## A run of the command -/

/-- Filling in positions changes no price of another kind of fuel.  If there is nothing to fill in,
nothing is changed.  Otherwise the same cities have the same prices, in the order of states and
cities in which the data set was written; if they were in this order before, or come from another
file, they are listed as before, and so every estimate is the same. -/
theorem locateCities_keeps_prices {settings : Settings} {line : List String}
    {arguments : Arguments} {shop shop' : Shop} {text : String}
    (understood : Arguments.read locateOptions line = .ok arguments)
    (completed : (locateCities settings line).run shop = (.ok text, shop')) {path kind : String}
    (fuel : fuelKind kind ≠ "location") {old : List Fuel.Entry}
    (before : ((Library.loadPrices shop.files path kind).run .empty).1 = .ok old) :
    ∃ states,
      readDocument shop.files (normalPath (datasetPath settings arguments)) =
        .ok (.object states) ∧
      (wanted arguments states = [] → shop' = shop) ∧
      (wanted arguments states ≠ [] → ∃ new,
        ((Library.loadPrices shop'.files path kind).run shop'.desk.library).1 = .ok new ∧
        (new.map Fuel.Entry.listing).Perm (old.map Fuel.Entry.listing) ∧
        (shop.files.locate path =
            shop.files.locate (normalPath (datasetPath settings arguments)) →
          new.Pairwise fun a b => a.place < b.place) ∧
        (shop.files.locate path ≠
              shop.files.locate (normalPath (datasetPath settings arguments)) ∨
            (old.Pairwise fun a b => a.place < b.place) →
          new.map Fuel.Entry.listing = old.map Fuel.Entry.listing ∧
          ∀ pricing offer distanceKm mileage,
            Fuel.estimate pricing offer (pure new : Except Fault _) distanceKm mileage =
              Fuel.estimate pricing offer (pure old) distanceKm mileage)) := by
  obtain ⟨states, held, located⟩ := locatesIn_of_run understood completed
  refine ⟨states, held, ?_⟩
  cases located with
  | idle nothing => exact ⟨fun _ => rfl, fun something => absurd nothing something⟩
  | located something _ which _ written library =>
      have distinct := distinct_of_readDocument held
      rw [loadPrices_empty] at before
      obtain ⟨new, loaded, same, ascends, elsewhere⟩ := exists_pricesIn_of_written held
        (holds_of_wanted distinct which) written (nodup_place_of_wanted distinct which) fuel before
      refine ⟨fun nothing => absurd nothing something, fun _ => ⟨new, ?_, same, ascends, ?_⟩⟩
      · rw [library, loadPrices_empty, loaded]
      · intro unchanged
        have sameList : new.map Fuel.Entry.listing = old.map Fuel.Entry.listing := by
          by_cases leads : shop.files.locate path =
              shop.files.locate (normalPath (datasetPath settings arguments))
          · obtain other | ascended := unchanged
            · exact absurd leads other
            · exact Fuel.map_listing_eq_of_ascending same (ascends leads) ascended
          · rw [elsewhere leads]
        exact ⟨sameList, fun pricing offer distanceKm mileage =>
          Fuel.estimate_congr sameList pricing offer distanceKm mileage⟩

/-- On the coast the price of diesel in Panaji is listed as before. -/
theorem locateCities_keeps_prices_coast :
    Arguments.read locateOptions ["--path", "d"] = .ok namedDataset ∧
      fuelKind "diesel" ≠ "location" ∧
      ((Library.loadPrices (shopWith coastDataset coastWire).files "d" "diesel").run .empty).1 =
        .ok [⟨"Goa", "Panaji", 90.5, none⟩] ∧
      ∃ text shop' new,
        (locateCities {} ["--path", "d"]).run (shopWith coastDataset coastWire) =
          (.ok text, shop') ∧
        ((Library.loadPrices shop'.files "d" "diesel").run shop'.desk.library).1 = .ok new ∧
        new.map Fuel.Entry.listing = [("Goa", "Panaji", 90.5)] := by
  have fuel : fuelKind "diesel" = "diesel" := by decide +kernel
  have other : fuelKind "diesel" ≠ "location" := by rw [fuel]; decide
  have before : ((Library.loadPrices (shopWith coastDataset coastWire).files "d" "diesel").run
      .empty).1 = .ok [⟨"Goa", "Panaji", 90.5, none⟩] := by
    rw [loadPrices_shopWith read_coast, fuel]
    rfl
  obtain ⟨text, shop', completed⟩ := exists_run_shopWith read_coast rfl wanted_coast_ne_nil
    wanted_coast.symm looksUp_coast
  obtain ⟨states, held, -, asked⟩ :=
    locateCities_keeps_prices understood_namedDataset completed other before
  rw [path_namedDataset, readDocument_eq, readText_shopWith, ok_bind, read_coast] at held
  obtain rfl : coastStates = states := Json.object.inj (Except.ok.inj held)
  obtain ⟨new, loaded, -, -, listed⟩ := asked wanted_coast_ne_nil
  exact ⟨understood_namedDataset, other, before, text, shop', new, completed, loaded,
    (listed (.inr (List.pairwise_singleton _ _))).1⟩

/-- Whether a run of the command leaves the prices of a kind of fuel as they could be loaded before:
those of the same cities in the same order. -/
def KeepsListing (settings : Settings) (line : List String) (path kind : String) (shop : Shop) :
    Prop :=
  ∀ text shop' old, (locateCities settings line).run shop = (.ok text, shop') →
    ((Library.loadPrices shop.files path kind).run .empty).1 = .ok old →
    ∃ new, ((Library.loadPrices shop'.files path kind).run shop'.desk.library).1 = .ok new ∧
      new.map Fuel.Entry.listing = old.map Fuel.Entry.listing

/-- A wire on which nobody replies. -/
def silentWire : Net.Wire := ⟨[], [], [], true⟩

/-- A data set whose states are out of order. -/
def unorderedDataset : String :=
  "\x7b\"Goa\": \x7b\"Panaji\": \x7b\"petrol\": 100.5\x7d\x7d, " ++
    "\"Assam\": \x7b\"Dispur\": \x7b\"petrol\": 90.5\x7d\x7d\x7d"

/-- The states of this data set. -/
def unorderedStates : Fields :=
  [("Goa", .object [("Panaji", .object [("petrol", .float 100.5)])]),
    ("Assam", .object [("Dispur", .object [("petrol", .float 90.5)])])]

/-- What is found for its cities. -/
def unorderedAnswers : List (City × Option Point) :=
  [(⟨"Goa", "Panaji", [("petrol", .float 100.5)]⟩, none),
    (⟨"Assam", "Dispur", [("petrol", .float 90.5)]⟩, none)]

/-- A data set with a number for a position. -/
def numberedDataset : String := "\x7b\"Goa\": \x7b\"Panaji\": \x7b\"location\": 0.0\x7d\x7d\x7d"

/-- The states of this data set. -/
def numberedStates : Fields := [("Goa", .object [("Panaji", .object [("location", .float 0.0)])])]

/-- What is found for its city. -/
def numberedAnswers : List (City × Option Point) :=
  [(⟨"Goa", "Panaji", [("location", .float 0.0)]⟩, some ⟨73.8, 15.5⟩)]

/-- A shop whose data set is empty, with a price that was loaded before. -/
def staleShop : Shop :=
  { shopWith "\x7b\x7d" silentWire with
    desk := ⟨silentWire,
      { Library.empty with prices := ⟨[(("d", "petrol"), [⟨"Goa", "Panaji", 100.5, none⟩])]⟩ }⟩ }

section

variable {dataset kind : String} {wire after : Net.Wire} {states : Fields}
  {answered : List (City × Option Point)} {old : List Fuel.Entry}

/-- If prices are kept, they are listed alike from the data set that is written. -/
theorem exists_listing_of_keepsListing {keys : List CityKey}
    (read : Json.read dataset = .ok (.object states))
    (listed : pendingCities (.object states) = .ok keys)
    (which : answered.map Prod.fst = wanted namedDataset states) (something : answered ≠ [])
    (lookups : LooksUp usualClient wire answered after)
    (before : Fuel.entries (fuelKind kind) (.object states) = .ok old)
    (keeps : KeepsListing {} ["--path", "d"] "d" kind (shopWith dataset wire)) :
    ∃ files' new, readDocument (shopWith dataset wire).files "d" = .ok (.object states) ∧
      (shopWith dataset wire).files.write "d"
        (Text.toBytes (locatedDocument (.object states) answered).pretty) = .ok files' ∧
      pricesIn files' "d" (fuelKind kind) = .ok new ∧
      new.map Fuel.Entry.listing = old.map Fuel.Entry.listing := by
  have asked : wanted namedDataset states ≠ [] :=
    fun nothing => something (List.map_eq_nil_iff.mp (which.trans nothing))
  obtain ⟨text, shop', completed⟩ := exists_run_shopWith read listed asked which lookups
  obtain ⟨new, loaded, same⟩ :=
    keeps text shop' old completed ((loadPrices_shopWith read).trans before)
  obtain ⟨states', held, located⟩ := locatesIn_of_run understood_namedDataset completed
  rw [path_namedDataset, readDocument_eq, readText_shopWith, ok_bind, read] at held
  obtain rfl : states = states' := Json.object.inj (Except.ok.inj held)
  cases located with
  | idle nothing => exact absurd nothing asked
  | @located client answered' _ _ created which' lookups' written library =>
      obtain rfl : client = usualClient := Except.ok.inj (created.symm.trans create_usualClient)
      obtain rfl : answered' = answered := lookups'.unique lookups (which'.trans which.symm)
      rw [path_namedDataset] at written
      rw [library, loadPrices_empty] at loaded
      exact ⟨shop'.files, new, readDocument_of_readText readText_shopWith read, written, loaded,
        same⟩

end

/-- States that were out of order are listed in order afterwards. -/
theorem not_keepsListing_of_unordered :
    ¬ KeepsListing {} ["--path", "d"] "d" "petrol" (shopWith unorderedDataset silentWire) := by
  intro keeps
  have read : Json.read unorderedDataset = .ok (.object unorderedStates) := rfl
  have fuel : fuelKind "petrol" = "petrol" := by decide +kernel
  have before : Fuel.entries (fuelKind "petrol") (.object unorderedStates) =
      .ok [⟨"Goa", "Panaji", 100.5, none⟩, ⟨"Assam", "Dispur", 90.5, none⟩] := by
    rw [fuel]
    rfl
  have which : unorderedAnswers.map Prod.fst = wanted namedDataset unorderedStates := by
    rw [wanted, cityLimit_namedDataset]
    rfl
  have lookups : LooksUp usualClient silentWire unorderedAnswers _ :=
    .cons (asks_of_silence rfl rfl) (.cons (asks_of_silence rfl rfl) (.nil _))
  obtain ⟨files', new, held, written, loaded, same⟩ :=
    exists_listing_of_keepsListing read rfl which (List.cons_ne_nil _ _) lookups before keeps
  have distinct := distinct_of_readDocument held
  obtain ⟨new', loaded', -, ascends, -⟩ := exists_pricesIn_of_written held
    (holds_of_wanted distinct which) written (nodup_place_of_wanted distinct which)
    (show fuelKind "petrol" ≠ "location" by rw [fuel]; decide)
    ((pricesIn_of_readDocument held).trans before)
  obtain rfl : new = new' := Except.ok.inj (loaded.symm.trans loaded')
  have ordered : (new.map Fuel.Entry.listing).Pairwise fun a b =>
      toLex (a.1, a.2.1) < toLex (b.1, b.2.1) := List.pairwise_map.mpr (ascends rfl)
  rw [same] at ordered
  exact absurd (List.pairwise_pair.mp ordered) (by decide)

/-- A number that was read as a price is no more a price after a position replaced it. -/
theorem not_keepsListing_of_numbered :
    ¬ KeepsListing {} ["--path", "d"] "d" "location" (shopWith numberedDataset coastWire) := by
  intro keeps
  have read : Json.read numberedDataset = .ok (.object numberedStates) := rfl
  have fuel : fuelKind "location" = "location" := by decide +kernel
  have before : Fuel.entries (fuelKind "location") (.object numberedStates) =
      .ok [⟨"Goa", "Panaji", 0.0, none⟩] := by
    rw [fuel]
    rfl
  have which : numberedAnswers.map Prod.fst = wanted namedDataset numberedStates := by
    rw [wanted, cityLimit_namedDataset]
    rfl
  have lookups : LooksUp usualClient coastWire numberedAnswers _ :=
    .cons (asks_of_known known_coastWire.2) (.nil _)
  obtain ⟨files', new, held, written, loaded, same⟩ :=
    exists_listing_of_keepsListing read rfl which (List.cons_ne_nil _ _) lookups before keeps
  have distinct := distinct_of_readDocument held
  rw [fuel] at loaded
  have member : ("Goa", "Panaji", 0.0) ∈ new.map Fuel.Entry.listing :=
    same ▸ List.mem_cons_self
  exact not_mem_listing_of_written held (holds_of_wanted distinct which) written
    (nodup_place_of_wanted distinct which) List.mem_cons_self loaded member

/-- Prices that were kept from an earlier data set are still given if there is nothing to look
up. -/
theorem not_keepsListing_of_stale :
    ¬ KeepsListing {} ["--path", "d"] "d" "petrol" staleShop := by
  intro keeps
  have read : Json.read "\x7b\x7d" = .ok (.object []) := rfl
  have files : staleShop.files = (shopWith "\x7b\x7d" silentWire).files := rfl
  have fuel : fuelKind "petrol" = "petrol" := by decide +kernel
  have held : datasetToLocate staleShop.files (datasetPath {} namedDataset) =
      .ok (.object []) := by
    rw [files]
    exact datasetToLocate_shopWith read
  have before : ((Library.loadPrices staleShop.files "d" "petrol").run .empty).1 = .ok [] := by
    rw [files, loadPrices_shopWith read]
    rfl
  have completed := run_locateCities_of_idle understood_namedDataset held rfl rfl
  have kept : staleShop.desk.library.prices.find? ("d", fuelKind "petrol") =
      some [⟨"Goa", "Panaji", 100.5, none⟩] := by
    rw [fuel]
    rfl
  obtain ⟨new, loaded, same⟩ := keeps _ _ _ completed before
  rw [run_loadPrices_of_kept kept] at loaded
  rw [← Except.ok.inj loaded] at same
  cases same

/-- Prices change when the states were out of order, when the fuel is named as positions are, and
when nothing is looked up and older prices are kept. -/
theorem not_keepsListing :
    ¬ KeepsListing {} ["--path", "d"] "d" "petrol" (shopWith unorderedDataset silentWire) ∧
      ¬ KeepsListing {} ["--path", "d"] "d" "location" (shopWith numberedDataset coastWire) ∧
      ¬ KeepsListing {} ["--path", "d"] "d" "petrol" staleShop :=
  ⟨not_keepsListing_of_unordered, not_keepsListing_of_numbered, not_keepsListing_of_stale⟩

end JourneyCost.Upkeep
