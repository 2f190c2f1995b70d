import JourneyCost.Proofs.Data.Faithful
import JourneyCost.Proofs.Fuel.Entries
import JourneyCost.Proofs.Json.Readable
import JourneyCost.Proofs.Upkeep.Building

/-!
# The data set as it is loaded

A data set that was built from a price table alone is loaded as the least prices of the table: for a
kind of fuel there is one entry for each city with a usable row, in the order of states and cities,
whatever the library held before.
-/

namespace JourneyCost.Upkeep

open Data Files Json

section

variable {rows : List PriceRow} {merged : Merged} {kind : String}

theorem sorted_positionFields (latitude longitude : Float) :
    (positionFields latitude longitude).sorted = positionFields latitude longitude :=
  sorted_object_of_ascending (List.pairwise_pair.mpr (show "lat" < "lng" by decide))
    (List.forall_mem_cons.mpr ⟨rfl, List.forall_mem_singleton.mpr rfl⟩)

theorem readable_positionFields (latitude longitude : Float) :
    (positionFields latitude longitude).Readable :=
  .object (show ["lat", "lng"].Nodup by decide)
    (List.forall_mem_cons.mpr ⟨.float _, List.forall_mem_singleton.mpr (.float _)⟩)

theorem distinct_positionFields (latitude longitude : Float) :
    (positionFields latitude longitude).Distinct :=
  distinct_of_readable (readable_positionFields latitude longitude)

theorem eq_positionFields_of_position? {row : PriceRow} {position : Json}
    (located : row.position? = some position) :
    ∃ latitude longitude, position = positionFields latitude longitude := by
  unfold PriceRow.position? at located
  split at located
  · exact ⟨_, _, (Option.some.inj located).symm⟩
  · exact absurd located (by simp)

/-- The only values that are put into a data set are prices and positions. -/
theorem value_of_mem_flatMap_writes {write : List String × Json}
    (member : write ∈ (PriceRow.cheapest rows).flatMap PriceRow.writes) :
    (∃ price, write.2 = .float price) ∨
      write.1.getLast? = some "location" ∧
        ∃ latitude longitude, write.2 = positionFields latitude longitude := by
  obtain ⟨row, -, rfl | ⟨position, located, rfl⟩⟩ := mem_flatMap_writes.mp member
  · exact .inl ⟨_, rfl⟩
  · exact .inr ⟨rfl, eq_positionFields_of_position? located⟩

/-- A data set built from a price table alone is a data set of prices. -/
theorem isPriceSet_of_mergePrices
    (completed : mergePrices (.object []) (PriceRow.cheapest rows) = .ok merged)
    (fuel : kind ≠ "location") : Fuel.IsPriceSet kind merged.document := by
  have grafted := graftAll?_of_foldlM_add completed
  have lengths : ∀ write ∈ (PriceRow.cheapest rows).flatMap PriceRow.writes,
      write.1.length = 3 := fun write member => length_of_mem_flatMap_writes member
  have shorter : ∀ path : List String, path.length < 3 →
      ∀ write ∈ (PriceRow.cheapest rows).flatMap PriceRow.writes,
        path.length < write.1.length := fun path short write member => by
    rwa [lengths write member]
  have atEnd : ∀ state city name value,
      merged.document.follow? [state, city, name] = some value →
      ([state, city, name], value) ∈ (PriceRow.cheapest rows).flatMap PriceRow.writes :=
    fun state city name value leads =>
      mem_of_follow?_graftAll?_empty grafted (by simp) lengths leads
  exact {
    root := object_of_follow?_graftAll?_empty grafted (shorter [] (by simp)) rfl
    states := fun state value leads =>
      object_of_follow?_graftAll?_empty grafted (shorter [state] (by simp)) leads
    cities := fun state city value leads =>
      object_of_follow?_graftAll?_empty grafted (shorter [state, city] (by simp)) leads
    prices := fun state city value leads => by
      obtain priced | ⟨last, -⟩ := value_of_mem_flatMap_writes (atEnd state city kind value leads)
      · exact priced
      · exact absurd (Option.some.inj last) fuel
    positions := fun state city value leads => by
      obtain ⟨price, rfl⟩ | ⟨-, latitude, longitude, rfl⟩ :=
        value_of_mem_flatMap_writes (atEnd state city "location" value leads)
      · exact ⟨none, rfl⟩
      · rw [sorted_positionFields]
        exact ⟨some ⟨longitude, latitude⟩, rfl⟩
    names := by
      refine distinct_graftAll? grafted distinct_empty fun write member => ?_
      obtain ⟨price, value⟩ | ⟨-, latitude, longitude, value⟩ := value_of_mem_flatMap_writes member
      · rw [value]
        exact distinct_float price
      · rw [value]
        exact distinct_positionFields latitude longitude }

/-- Every price comes from a row that was kept. -/
theorem exists_row_of_follow?
    (completed : mergePrices (.object []) (PriceRow.cheapest rows) = .ok merged)
    (fuel : kind ≠ "location") {state city : String} {price : Float}
    (leads : merged.document.follow? [state, city, kind] = some (.float price)) :
    ∃ row ∈ PriceRow.cheapest rows, row.key = (state, city, kind) ∧
      price = Decimal.roundTo 2 row.price := by
  have member : (Key.path (state, city, kind), .float price) ∈
      (PriceRow.cheapest rows).flatMap PriceRow.writes :=
    mem_of_follow?_graftAll?_empty (graftAll?_of_foldlM_add completed) (by simp [Key.path])
      (fun write member => (length_of_mem_flatMap_writes member).trans rfl) leads
  obtain ⟨row, kept, same | ⟨position, -, same⟩⟩ := mem_flatMap_writes.mp member
  · obtain ⟨path, value⟩ := Prod.mk.inj same
    exact ⟨row, kept, (Key.path_inj.mp path).symm, Json.float.inj value⟩
  · obtain ⟨path, -⟩ := Prod.mk.inj same
    simp only [Key.path, positionPath, List.cons.injEq, and_true] at path
    exact absurd path.2.2 fuel

end

theorem eq_empty_of_isPrevious {files : Files} {output : String} {replaces : Bool} {base : Json}
    (previous : IsPrevious files output replaces base)
    (fresh : replaces = true ∨ files.has (normalPath output) = .ok false) :
    base = .object [] := by
  obtain ⟨there, known, held⟩ := previous
  rcases fresh with rfl | absent
  · simpa using held
  · obtain rfl : there = false := Except.ok.inj (known.symm.trans absent)
    simpa using held

/-- A library that has read nothing loads what the file holds. -/
theorem loadPrices_empty (files : Files) (path kind : String) :
    ((Library.loadPrices files path kind).run .empty).1 = pricesIn files path (fuelKind kind) := by
  obtain ⟨-, read, rfl, same⟩ := @Library.reads_loadPrices (· = files) files rfl path kind
    .empty (Library.faithful_empty _)
  exact same

theorem pricesIn_of_readDocument {files : Files} {path kind : String} {document : Json}
    (read : readDocument files path = .ok document) :
    pricesIn files path kind = Fuel.entries kind document := by
  rw [pricesIn, documentIn, read, recoverWhen_ok, ok_bind]

theorem readDocument_of_readText {files : Files} {path s : String} {document : Json}
    (holds : files.readText path = .ok s) (read : Json.read s = .ok document) :
    readDocument files path = .ok document := by
  rw [readDocument_eq, holds, ok_bind, read]

/-- The data set that comes from the table of the market alone. -/
def marketBuilt : Json :=
  .object [("Goa", .object [("Panaji",
    .object [("diesel", .float .nan), ("petrol", .float 95.0)])])]

theorem cheapest_market : PriceRow.cheapest marketRows = marketRows.take 2 := by
  have inOrder : (marketRows.filter PriceRow.isUsable).Pairwise
      fun a b => PriceRow.le a b = true := by decide +kernel
  rw [PriceRow.cheapest, List.mergeSort_of_pairwise inOrder]
  decide +kernel

theorem merge_market :
    mergePrices (.object []) (PriceRow.cheapest marketRows) = .ok ⟨marketBuilt, 2, 0⟩ := by
  rw [cheapest_market]
  rfl

theorem sorted_marketBuilt : marketBuilt.sorted = marketBuilt := by
  refine sorted_object_of_ascending (List.pairwise_singleton _ _) (List.forall_mem_singleton.mpr ?_)
  refine sorted_object_of_ascending (List.pairwise_singleton _ _) (List.forall_mem_singleton.mpr ?_)
  exact sorted_object_of_ascending (List.pairwise_pair.mpr (by decide))
    (List.forall_mem_cons.mpr ⟨rfl, List.forall_mem_singleton.mpr rfl⟩)

theorem read_marketBuilt : Json.read marketBuilt.pretty = .ok marketBuilt.sorted := by
  rw [pretty, sorted_marketBuilt]
  rfl

theorem baseDocument_market : baseDocument market.files "d" true = .ok (.object []) := by
  rw [baseDocument, normalPath_market.2.1, has_market, ok_bind]
  rfl

section

variable {settings : Settings} {line : List String} {arguments : Arguments} {shop shop' : Shop}
  {text : String} {rows kept : List PriceRow} {merged : Merged}

/-- Right after a data set was built from a table alone, loading the prices for a kind of fuel gives
the least prices of the table, one for each city with a usable row, in the order of states and
cities.  It is granted that the document that was written is read back with its members in order. -/
theorem loadPrices_buildPrices (understood : Arguments.read buildOptions line = .ok arguments)
    (table : tableRows shop.files (tablePath arguments) = .ok rows)
    (fresh : replaces arguments = true ∨
      shop.files.has (normalPath (outputPath settings arguments)) = .ok false)
    (built : builtDataset shop.files (tablePath arguments) (outputPath settings arguments)
      (replaces arguments) = .ok (kept, merged))
    (readsBack : Json.read merged.document.pretty = .ok merged.document.sorted)
    (completed : (buildPrices settings line).run shop = (.ok text, shop')) {path kind : String}
    (leads : shop'.files.locate path =
      shop'.files.locate (normalPath (outputPath settings arguments)))
    (common : fuelKind kind = kind) (fuel : kind ≠ "location") :
    ∃ entries, ((Library.loadPrices shop'.files path kind).run shop'.desk.library).1 =
        .ok entries ∧
      (entries.Pairwise fun a b => a.place < b.place) ∧
      (∀ entry ∈ entries, ∃ price, IsLeastPrice rows (entry.state, entry.city, kind) price ∧
        entry.price = Decimal.roundTo 2 price) ∧
      ∀ key ∈ pricedKeys rows, key.2.2 = kind →
        ∃ entry ∈ entries, entry.state = key.1 ∧ entry.city = key.2.1 := by
  obtain ⟨kept', merged', files, files', built', -, written, rfl, -⟩ :=
    (run_buildPrices_eq_ok understood).mp completed
  obtain ⟨rfl, rfl⟩ := Prod.mk.inj (Except.ok.inj (built.symm.trans built'))
  obtain ⟨rows', base, read, found, rfl, merges⟩ := exists_of_builtDataset built
  obtain rfl : rows = rows' := Except.ok.inj (table.symm.trans read)
  obtain rfl : base = .object [] := eq_empty_of_isPrevious (isPrevious_of_baseDocument found) fresh
  have holds : files'.readText path = .ok merged.document.pretty :=
    readText_of_read ((read_congr leads).trans (read_write written))
  obtain ⟨entries, listed, ascending, priced, all⟩ :=
    Fuel.exists_entries_sorted (isPriceSet_of_mergePrices merges fuel)
  refine ⟨entries, ?_, ascending, ?_, ?_⟩
  · rw [loadPrices_empty, common,
      pricesIn_of_readDocument (readDocument_of_readText holds readsBack), listed]
  · intro entry member
    obtain ⟨row, keptRow, about, price⟩ :=
      exists_row_of_follow? merges fuel (priced entry member)
    exact ⟨row.price, about ▸ isLeastPrice_of_mem_cheapest keptRow, price⟩
  · rintro ⟨state, city, name⟩ pricedKey rfl
    obtain ⟨row, keptRow, about⟩ := exists_mem_cheapest_of_mem_pricedKeys pricedKey
    have sameFuel : row.fuel = name := congrArg (·.2.2) about
    have leadsTo := follow?_path_of_mergePrices merges keptRow (sameFuel ▸ fuel)
    rw [about] at leadsTo
    exact all state city _ leadsTo

end

/-- The least prices of the market are loaded right after they were put in place of its data set. -/
theorem loadPrices_buildPrices_market :
    Arguments.read buildOptions (marketOptions ["--replace"]) =
        .ok (marketArguments [("--replace", "")]) ∧
      Json.read marketBuilt.pretty = .ok marketBuilt.sorted ∧
      ∃ text shop', (buildPrices {} (marketOptions ["--replace"])).run market = (.ok text, shop') ∧
        ∃ entries, ((Library.loadPrices shop'.files "d" "petrol").run shop'.desk.library).1 =
            .ok entries ∧
          (entries.Pairwise fun a b => a.place < b.place) ∧
          (∀ entry ∈ entries, ∃ price,
            IsLeastPrice marketRows (entry.state, entry.city, "petrol") price ∧
            entry.price = Decimal.roundTo 2 price) ∧
          ∀ key ∈ pricedKeys marketRows, key.2.2 = "petrol" →
            ∃ entry ∈ entries, entry.state = key.1 ∧ entry.city = key.2.1 := by
  have understood : Arguments.read buildOptions (marketOptions ["--replace"]) =
      .ok (marketArguments [("--replace", "")]) := by decide +kernel
  have built := builtDataset_market baseDocument_market merge_market
  obtain ⟨text, shop', completed⟩ := exists_run_market understood rfl built
  have leads : shop'.files.locate "d" = shop'.files.locate (normalPath "d") := by
    rw [normalPath_market.2.1]
  have common : fuelKind "petrol" = "petrol" := by decide +kernel
  exact ⟨understood, read_marketBuilt, text, shop', completed,
    loadPrices_buildPrices understood tableRows_market (.inl rfl) built read_marketBuilt completed
      leads common (by decide)⟩

end JourneyCost.Upkeep
