import JourneyCost.Proofs.Data.Directories
import JourneyCost.Proofs.Json.Settled
import JourneyCost.Proofs.Upkeep.Locating

/-!
# Building the data set again

The command that builds the fuel data set writes a document that holds everything the table puts
into it, with its members in order.  So a second run finds every price there, writes the same
document again, and leaves the shop as it found it.
-/

namespace JourneyCost.Upkeep

open Data Files Json

section

variable {base document after : Json} {rows : List PriceRow} {merged : Merged}
  {row other : PriceRow}

theorem isIn_graftAll?_of_isIn (grafted : graftAll? document row.writes = some after)
    (present : other.isIn document = true) : other.isIn after = true :=
  isSome_follow?_graftAll? grafted
    (fun _ member => (PriceRow.length_of_mem_writes member).trans rfl) present

/-- Rows whose prices are all there are merged by updates alone. -/
theorem exists_foldlM_add_of_isIn (present : ∀ row ∈ rows, row.isIn merged.document = true) :
    ∃ document, rows.foldlM Merged.add merged =
      .ok ⟨document, merged.added, merged.updated + rows.length⟩ := by
  induction rows generalizing merged with
  | nil => exact ⟨merged.document, rfl⟩
  | cons row more induction =>
      rw [List.forall_mem_cons] at present
      obtain ⟨next, added⟩ := Merged.exists_add_iff.mpr (open_of_isSome_follow? present.1)
      obtain ⟨document, grafted, rfl⟩ := Merged.add_eq_ok_iff.mp added
      have updates : merged.counted row document =
          { merged with document, updated := merged.updated + 1 } := if_pos present.1
      obtain ⟨result, completed⟩ : ∃ result, more.foldlM Merged.add (merged.counted row document) =
          .ok ⟨result, merged.added, merged.updated + 1 + more.length⟩ := by
        rw [updates]
        exact induction fun other member => isIn_graftAll?_of_isIn grafted (present.2 other member)
      refine ⟨result, ?_⟩
      rw [List.foldlM_cons, added, ok_bind, completed, List.length_cons, Nat.add_assoc,
        Nat.add_comm 1]

theorem readable_of_mem_writes {write : List String × Json} (member : write ∈ row.writes) :
    write.2.Readable := by
  obtain rfl | ⟨position, located, rfl⟩ := PriceRow.mem_writes.mp member
  · exact .float _
  · obtain ⟨latitude, longitude, rfl⟩ := eq_positionFields_of_position? located
    exact readable_positionFields latitude longitude

theorem sorted_of_mem_writes {write : List String × Json} (member : write ∈ row.writes) :
    write.2.sorted = write.2 := by
  obtain rfl | ⟨position, located, rfl⟩ := PriceRow.mem_writes.mp member
  · rfl
  · obtain ⟨latitude, longitude, rfl⟩ := eq_positionFields_of_position? located
    exact sorted_positionFields latitude longitude

variable (completed : mergePrices base rows = .ok merged) (readable : base.Readable)

include completed readable

theorem readable_of_mergePrices : merged.document.Readable := by
  refine readable_graftAll? (graftAll?_of_foldlM_add completed) readable fun write member => ?_
  obtain ⟨row, -, inRow⟩ := List.mem_flatMap.mp member
  exact readable_of_mem_writes inRow

/-- Merging rows into what came of merging them, as it is read back, adds and changes nothing. -/
theorem mergePrices_sorted :
    mergePrices merged.document.sorted rows = .ok ⟨merged.document.sorted, 0, rows.length⟩ := by
  have grafted := graftAll?_of_foldlM_add completed
  have lengths : ∀ write ∈ rows.flatMap PriceRow.writes, write.1.length = 3 := by
    intro write member
    obtain ⟨row, -, inRow⟩ := List.mem_flatMap.mp member
    exact PriceRow.length_of_mem_writes inRow
  have inOrder : ∀ write ∈ rows.flatMap PriceRow.writes, write.2.sorted = write.2 := by
    intro write member
    obtain ⟨row, -, inRow⟩ := List.mem_flatMap.mp member
    exact sorted_of_mem_writes inRow
  have settled : merged.document.sorted.Settled (rows.flatMap PriceRow.writes) :=
    (settled_of_graftAll? grafted lengths).sorted
      (distinct_of_readable (readable_of_mergePrices completed readable)) inOrder
  have present : ∀ row ∈ rows, row.isIn merged.document.sorted = true := by
    intro row member
    have priced : (Key.path row.key, .float (Decimal.roundTo 2 row.price)) ∈
        rows.flatMap PriceRow.writes :=
      List.mem_flatMap.mpr ⟨row, member, PriceRow.mem_writes.mpr (.inl rfl)⟩
    exact settled.isSome (List.mem_map_of_mem priced)
  obtain ⟨document, again⟩ : ∃ document, mergePrices merged.document.sorted rows =
      .ok ⟨document, 0, 0 + rows.length⟩ := exists_foldlM_add_of_isIn present
  have same : some document = some merged.document.sorted :=
    (graftAll?_of_foldlM_add again).symm.trans (settled.graftAll? lengths)
  rw [again, Option.some.inj same, Nat.zero_add]

end

/-- Whether a path leads to one file and is no pattern for several. -/
def LeadsToFile (files : Files) (path : String) : Prop :=
  path.toList.any Text.isWildcardMark = false ∧
    ∃ place bytes, files.locate path = .ok place ∧ files.entryAt? place = some (.file bytes)

section

variable {files between after : Files} {table output : String} {place : Place} {bytes : Bytes}
  {base : Json} {replaces : Bool}

theorem has_of_entryAt? {path : String} {entry : Entry} (located : files.locate path = .ok place)
    (stands : files.entryAt? place = some entry) : files.has path = .ok true := by
  rw [has, find, located, ok_bind, stands]
  rfl

theorem tableRows_of_file (plain : (normalPath table).toList.any Text.isWildcardMark = false)
    (located : files.locate (normalPath table) = .ok place)
    (stands : files.entryAt? place = some (.file bytes)) :
    tableRows files table = Table.Sheet.ofParts [bytes] >>= readPrices := by
  rw [tableRows, has_of_entryAt? located stands, ok_bind, tableParts, located, ok_bind]
  simp only [stands, plain]
  rfl

/-- A file is read as the same table after more directories were made and another file was
written. -/
theorem tableRows_again (leads : LeadsToFile files (normalPath table))
    (furnished : Furnished files between)
    (written : between.write (normalPath output) bytes = .ok after)
    (different : after.locate (normalPath table) ≠ after.locate (normalPath output)) :
    tableRows after table = tableRows files table := by
  obtain ⟨plain, spot, held, located, stands⟩ := leads
  obtain ⟨place, locatedOutput, free, rfl⟩ := write_eq_ok written
  rw [locate_put free (furnished.locate located), locate_put free locatedOutput] at different
  have elsewhere : spot ≠ place := fun same => different (congrArg Except.ok same)
  rw [tableRows_of_file plain located stands,
    tableRows_of_file plain (locate_put free (furnished.locate located))]
  rw [entryAt?_put _ free, if_neg elsewhere, furnished.kept stands]

theorem readable_of_baseDocument (found : baseDocument files output replaces = .ok base) :
    base.Readable := by
  obtain ⟨there, -, previous⟩ := isPrevious_of_baseDocument found
  split at previous
  · exact readable_of_readDocument previous
  · exact previous ▸ readable_empty

/-- The data set that was written is merged into, unless it is replaced again. -/
theorem baseDocument_of_written {document : Json} (readable : document.Readable)
    (written : between.write (normalPath output) (Text.toBytes document.pretty) = .ok after) :
    baseDocument after output replaces =
      .ok (if replaces then .object [] else document.sorted) := by
  have held := readText_of_read (read_write written)
  obtain ⟨place, bytes, located, stands⟩ := exists_file_of_readText held
  rw [baseDocument, has_of_entryAt? located stands, ok_bind]
  cases replaces <;>
    simp [readDocument_of_readText held (read_pretty readable), pure, Except.pure]

end

section

variable {files between after : Files} {table output : String} {replaces : Bool}
  {kept : List PriceRow} {merged : Merged}

/-- What is merged in a second run comes to the same document. -/
theorem exists_builtDataset_again
    (built : builtDataset files table output replaces = .ok (kept, merged))
    (furnished : Furnished files between)
    (written : between.write (normalPath output) (Text.toBytes merged.document.pretty) = .ok after)
    (leads : LeadsToFile files (normalPath table))
    (different : after.locate (normalPath table) ≠ after.locate (normalPath output)) :
    ∃ again, builtDataset after table output replaces = .ok (kept, again) ∧
      again.document.pretty = merged.document.pretty ∧
      (replaces = true → again = merged) ∧
      (replaces = false → again.added = 0 ∧ again.updated = kept.length) := by
  obtain ⟨rows, base, read, found, rfl, merges⟩ := exists_of_builtDataset built
  have readable := readable_of_baseDocument found
  have result := readable_of_mergePrices merges readable
  have read := (tableRows_again leads furnished written different).trans read
  have held : baseDocument after output replaces = _ := baseDocument_of_written result written
  cases replaces with
  | true =>
      obtain ⟨there, -, fresh⟩ := isPrevious_of_baseDocument found
      obtain rfl : base = .object [] := by simpa using fresh
      refine ⟨merged, ?_, rfl, fun _ => rfl, by simp⟩
      rw [builtDataset, read, ok_bind, held, ok_bind, if_pos rfl, merges]
      rfl
  | false =>
      refine ⟨⟨merged.document.sorted, 0, (PriceRow.cheapest rows).length⟩, ?_, ?_, by simp,
        fun _ => ⟨rfl, rfl⟩⟩
      · rw [builtDataset, read, ok_bind, held, ok_bind, if_neg Bool.false_ne_true,
          mergePrices_sorted merges readable]
        rfl
      · rw [pretty, pretty, sorted_sorted result]

end

section

variable {settings : Settings} {line : List String} {arguments : Arguments} {shop shop' : Shop}
  {text : String}

/-- What a second run prints: the same line if the data set is replaced, else that every price was
there and was updated. -/
def printedAgain (arguments : Arguments) (rows : List PriceRow) (text : String) : String :=
  if replaces arguments then text
  else
    printed arguments .good ("Built fuel price dataset: " ++ toString (pricedKeys rows).card ++
      " rows normalized, " ++ toString 0 ++ " prices added, " ++ toString (pricedKeys rows).card ++
      " updated")

/-- A second run right after one that completed completes too.  It leaves all files as they are, so
the data set has the same bytes, and unless the data set is replaced it adds no prices.  It is
granted that the table is one file, and not the one that the data set was written to. -/
theorem buildPrices_again (understood : Arguments.read buildOptions line = .ok arguments)
    (completed : (buildPrices settings line).run shop = (.ok text, shop'))
    (table : LeadsToFile shop.files (normalPath (tablePath arguments)))
    (different : shop'.files.locate (normalPath (tablePath arguments)) ≠
      shop'.files.locate (normalPath (outputPath settings arguments))) :
    ∃ rows, tableRows shop.files (tablePath arguments) = .ok rows ∧
      (buildPrices settings line).run shop' = (.ok (printedAgain arguments rows text), shop') := by
  obtain ⟨kept, merged, between, after, built, prepared, written, rfl, rfl⟩ :=
    (run_buildPrices_eq_ok understood).mp completed
  have furnished : Furnished shop.files between := by
    have within := within_ensureDirectory (parentPath (outputPath settings arguments)) shop.files
    rwa [prepared] at within
  obtain ⟨again, builtAgain, same, replaced, updates⟩ :=
    exists_builtDataset_again built furnished written table different
  obtain ⟨rows, base, read, -, rfl, -⟩ := exists_of_builtDataset built
  refine ⟨rows, read, (run_buildPrices_eq_ok understood).mpr ⟨_, again, after, after, builtAgain,
    run_ensureDirectory_again prepared written, ?_, rfl, ?_⟩⟩
  · rw [same]
    exact write_again written
  · unfold printedAgain
    split
    · rename_i replacing
      rw [replaced replacing]
    · rename_i merging
      obtain ⟨added, updated⟩ := updates (Bool.eq_false_of_not_eq_true merging)
      unfold buildReport
      rw [added, updated, length_cheapest]

/-- The market is built twice: the second time its two prices are updated. -/
theorem buildPrices_again_market :
    Arguments.read buildOptions (marketOptions []) = .ok (marketArguments []) ∧
      LeadsToFile market.files (normalPath (tablePath (marketArguments []))) ∧
      ∃ text shop', (buildPrices {} (marketOptions [])).run market = (.ok text, shop') ∧
        shop'.files.locate (normalPath "t") ≠ shop'.files.locate (normalPath "d") ∧
        (buildPrices {} (marketOptions [])).run shop' =
          (.ok (printedAgain (marketArguments []) marketRows text), shop') := by
  have understood : Arguments.read buildOptions (marketOptions []) = .ok (marketArguments []) := by
    decide +kernel
  obtain ⟨base, merged, found, merges⟩ := exists_mergePrices_market
  obtain ⟨text, shop', completed⟩ :=
    exists_run_market understood rfl (builtDataset_market found merges)
  have leads : LeadsToFile market.files (normalPath (tablePath (marketArguments []))) := by
    have path : tablePath (marketArguments []) = "t" := rfl
    rw [path, normalPath_market.1]
    exact ⟨by decide, ["home", "t"], Text.toBytes marketTable, locate_market.1, rfl⟩
  have different : shop'.files.locate (normalPath "t") ≠ shop'.files.locate (normalPath "d") := by
    obtain ⟨-, built, between, after, -, prepared, written, rfl, -⟩ :=
      (run_buildPrices_eq_ok understood).mp completed
    obtain ⟨place, located, free, rfl⟩ := write_eq_ok written
    change (ensureDirectory (parentPath "d")).run market.files = _ at prepared
    rw [normalPath_market.2.2, ensureDirectory_market] at prepared
    obtain rfl : market.files = between := congrArg Prod.snd prepared
    rw [normalPath_market.1, normalPath_market.2.1, locate_put free locate_market.1,
      locate_put free locate_market.2.1]
    decide
  obtain ⟨rows, read, again⟩ := buildPrices_again understood completed leads different
  change tableRows market.files "t" = _ at read
  obtain rfl : marketRows = rows := Except.ok.inj (tableRows_market.symm.trans read)
  exact ⟨understood, leads, text, shop', completed, different, again⟩

end

end JourneyCost.Upkeep
