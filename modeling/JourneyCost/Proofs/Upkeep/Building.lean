import JourneyCost.Proofs.Data.Faithful
import JourneyCost.Proofs.Data.Directories
import JourneyCost.Proofs.Upkeep.Dataset
import JourneyCost.Upkeep.BuildPrices

/-!
# What the command leaves behind

When the command that builds the fuel data set completes, the output file holds the merge of the
price table into the data set that was there before, the library is empty, and the printed line
tells how many keys there were and how many of them had a price before.
-/

namespace JourneyCost.Upkeep

open Data Files Json

/-- The path of the price table. -/
def tablePath (arguments : Arguments) : String := (arguments.get? "--csv-path").getD ""

/-- The path of the data set. -/
def outputPath (settings : Settings) (arguments : Arguments) : String :=
  (arguments.get? "--output").getD settings.fuelPath

/-- Whether the data set is put in place of the one that is there. -/
def replaces (arguments : Arguments) : Bool := arguments.has "--replace"

/-- The data set that was there before: an empty one if there was none or it is to be replaced. -/
def IsPrevious (files : Files) (output : String) (replaces : Bool) (base : Json) : Prop :=
  ∃ there, files.has (normalPath output) = .ok there ∧
    if there && !replaces then readDocument files (normalPath output) = .ok base
    else base = .object []

theorem isPrevious_of_baseDocument {files : Files} {output : String} {replaces : Bool}
    {base : Json} (found : baseDocument files output replaces = .ok base) :
    IsPrevious files output replaces base := by
  obtain ⟨there, known, found⟩ := bind_eq_ok.mp found
  refine ⟨there, known, ?_⟩
  cases there <;> cases replaces
  case true.false =>
    cases read : readDocument files (normalPath output) with
    | ok document =>
        simp only [read] at found
        rw [← Except.ok.inj found]
        rfl
    | error fault =>
        simp only [read] at found
        exact absurd found (by simp [throw, throwThe, MonadExceptOf.throw])
  all_goals exact (Except.ok.inj found).symm

theorem exists_of_builtDataset {files : Files} {table output : String} {replaces : Bool}
    {kept : List PriceRow} {merged : Merged}
    (built : builtDataset files table output replaces = .ok (kept, merged)) :
    ∃ rows base, tableRows files table = .ok rows ∧
      baseDocument files output replaces = .ok base ∧ kept = PriceRow.cheapest rows ∧
      mergePrices base kept = .ok merged := by
  obtain ⟨rows, read, built⟩ := bind_eq_ok.mp built
  obtain ⟨base, found, built⟩ := bind_eq_ok.mp built
  obtain ⟨result, completed, same⟩ := bind_eq_ok.mp built
  obtain ⟨rfl, rfl⟩ := Prod.mk.inj (Except.ok.inj same)
  exact ⟨rows, base, read, found, rfl, completed⟩

theorem run_prepare (path : String) (shop : Shop) :
    (Shop.prepare path).run shop =
      (((ensureDirectory (parentPath path)).run shop.files).1,
        { shop with files := ((ensureDirectory (parentPath path)).run shop.files).2 }) := rfl

theorem run_prepare_eq_ok {path : String} {shop shop' : Shop} :
    (Shop.prepare path).run shop = (.ok (), shop') ↔
      ∃ files, (ensureDirectory (parentPath path)).run shop.files = (.ok (), files) ∧
        shop' = { shop with files := files } := by
  rw [run_prepare]
  rcases (ensureDirectory (parentPath path)).run shop.files with ⟨outcome, files⟩
  simp [eq_comm]

theorem run_save_eq_ok {path : String} {document : Json} {shop shop' : Shop} :
    (Shop.save path document).run shop = (.ok (), shop') ↔
      ∃ files, shop.files.write (normalPath path) (Text.toBytes document.pretty) = .ok files ∧
        shop' = { shop with files := files, desk := { shop.desk with library := .empty } } := by
  unfold Work.run Shop.save
  cases shop.files.write (normalPath path) (Text.toBytes document.pretty) <;> simp [eq_comm]

section

variable {settings : Settings} {line : List String} {arguments : Arguments} {shop shop' : Shop}
  {text : String} {rows : List PriceRow}

/-- What a run of the command that completes goes through. -/
theorem run_buildPrices_eq_ok (understood : Arguments.read buildOptions line = .ok arguments) :
    (buildPrices settings line).run shop = (.ok text, shop') ↔
      ∃ kept merged files files',
        builtDataset shop.files (tablePath arguments) (outputPath settings arguments)
          (replaces arguments) = .ok (kept, merged) ∧
        (ensureDirectory (parentPath (outputPath settings arguments))).run shop.files =
          (.ok (), files) ∧
        Files.write files (normalPath (outputPath settings arguments))
          (Text.toBytes merged.document.pretty) = .ok files' ∧
        shop' = { shop with files := files', desk := { shop.desk with library := .empty } } ∧
        text = printed arguments .good (buildReport kept merged) := by
  rw [buildPrices, understood]
  constructor
  · intro completed
    obtain ⟨taken, same, completed⟩ := Work.run_ofExcept_bind_eq_ok.mp completed
    obtain rfl : arguments = taken := Except.ok.inj same
    rw [Work.run_bind_eq_ok] at completed
    obtain ⟨looked, between, same, completed⟩ := completed
    obtain ⟨rfl, rfl⟩ : shop = looked ∧ shop = between := by simpa using same
    obtain ⟨⟨kept, merged⟩, built, completed⟩ := Work.run_ofExcept_bind_eq_ok.mp completed
    obtain ⟨_, _, prepared, completed⟩ := Work.run_bind_eq_ok.mp completed
    obtain ⟨_, _, saved, completed⟩ := Work.run_bind_eq_ok.mp completed
    obtain ⟨files, made, rfl⟩ := run_prepare_eq_ok.mp prepared
    obtain ⟨files', written, rfl⟩ := run_save_eq_ok.mp saved
    obtain ⟨sameText, rfl⟩ := Prod.mk.inj completed
    exact ⟨kept, merged, files, files', built, made, written, rfl,
      (Except.ok.inj sameText).symm⟩
  · rintro ⟨kept, merged, files, files', built, prepared, written, rfl, rfl⟩
    refine Work.run_ofExcept_bind_eq_ok.mpr ⟨arguments, rfl, ?_⟩
    refine Work.run_bind_eq_ok.mpr ⟨shop, shop, rfl, ?_⟩
    refine Work.run_ofExcept_bind_eq_ok.mpr ⟨(kept, merged), built, ?_⟩
    refine Work.run_bind_eq_ok.mpr ⟨(), _, run_prepare_eq_ok.mpr ⟨files, prepared, rfl⟩, ?_⟩
    refine Work.run_bind_eq_ok.mpr ⟨(), _, run_save_eq_ok.mpr ⟨files', written, rfl⟩, ?_⟩
    rfl

end

/-- A table with one price for diesel, which is not a number, and two prices for petrol, of which
the second comes with a position. -/
def marketTable : String :=
  "State,City,Fuel Type,Price,Latitude,Longitude\nGoa,Panaji,diesel,NaN,,\n" ++
    "Goa,Panaji, Petrol ,95.004,,\nGoa,Panaji,petrol,96.456,15.5,73.8\n"

/-- The rows of the table. -/
def marketRows : List PriceRow :=
  [⟨"Goa", "Panaji", "diesel", .nan, none, none⟩,
    ⟨"Goa", "Panaji", "petrol", 95.004, none, none⟩,
    ⟨"Goa", "Panaji", "petrol", 96.456, some 15.5, some 73.8⟩]

/-- A data set with a price for petrol and another value. -/
def marketDataset : String :=
  "\x7b\"Goa\": \x7b\"Panaji\": \x7b\"petrol\": 90.5\x7d, \"code\": [30]\x7d\x7d"

/-- A shop with the table in the file `t` and the data set in the file `d`. -/
def market : Shop :=
  ⟨⟨[(home, .directory), (["home", "t"], .file (Text.toBytes marketTable)),
    (["home", "d"], .file (Text.toBytes marketDataset))]⟩, ⟨⟨[], [], [], false⟩, .empty⟩, []⟩

/-- The options that name the two files, and one more. -/
def marketOptions (further : List String) : List String :=
  ["--csv-path", "t", "--output", "d"] ++ further

/-- The values of the options. -/
def marketArguments (further : List (String × String)) : Arguments :=
  ⟨further ++ [("--output", "d"), ("--csv-path", "t")], []⟩

deriving instance DecidableEq for Arguments

deriving instance DecidableEq for PriceRow

theorem split_market :
    "t".splitOn "/" = ["t"] ∧ "d".splitOn "/" = ["d"] ∧ ".".splitOn "/" = ["."] := by
  refine ⟨?_, ?_, ?_⟩ <;> cbv

theorem normalPath_market :
    normalPath "t" = "t" ∧ normalPath "d" = "d" ∧ parentPath "d" = "." := by
  rw [normalPath, normalPath, parentPath, pathNames, pathNames, split_market.1, split_market.2.1]
  decide +kernel

theorem locate_market : market.files.locate "t" = .ok ["home", "t"] ∧
    market.files.locate "d" = .ok ["home", "d"] ∧ market.files.locate "." = .ok ["home"] := by
  rw [locate, locate, locate, split_market.1, split_market.2.1, split_market.2.2]
  decide +kernel

theorem tableRows_market : tableRows market.files "t" = .ok marketRows := by
  have rows : (Table.Sheet.ofParts [Text.toBytes marketTable] >>= readPrices) = .ok marketRows := by
    decide +kernel
  rw [tableRows, normalPath_market.1, has, find, tableParts, locate_market.1, ok_bind]
  exact rows

theorem has_market : market.files.has "d" = .ok true := by
  rw [has, find, locate_market.2.1]
  rfl

theorem builtDataset_market {replaces : Bool} {base : Json} {merged : Merged}
    (found : baseDocument market.files "d" replaces = .ok base)
    (merges : mergePrices base (PriceRow.cheapest marketRows) = .ok merged) :
    builtDataset market.files "t" "d" replaces = .ok (PriceRow.cheapest marketRows, merged) := by
  rw [builtDataset, tableRows_market, ok_bind, found, ok_bind, merges]
  rfl

/-- The data set of the market has room for the prices of the table. -/
theorem exists_mergePrices_market : ∃ base merged,
    baseDocument market.files "d" false = .ok base ∧
      mergePrices base (PriceRow.cheapest marketRows) = .ok merged := by
  have text : market.files.readText "d" = .ok marketDataset := by
    refine readText_of_read ?_
    rw [Files.read, find, locate_market.2.1]
    rfl
  have grafts : ∀ row ∈ marketRows, (Json.read marketDataset).toOption.bind
      (graft? .null · (Key.path row.key)) |>.isSome := by decide +kernel
  cases read : Json.read marketDataset with
  | error fault =>
      exact absurd (grafts _ List.mem_cons_self) (by simp [read, Except.toOption])
  | ok base =>
      have opened : ∀ row ∈ PriceRow.cheapest marketRows, Open base (Key.path row.key) := by
        intro row member
        have grafted := grafts row (PriceRow.mem_of_mem_cheapest member).1
        rw [read] at grafted
        exact exists_graft?_iff.mp (Option.isSome_iff_exists.mp grafted)
      obtain ⟨merged, merges⟩ :
          ∃ merged, mergePrices base (PriceRow.cheapest marketRows) = .ok merged :=
        exists_foldlM_add_iff.mpr opened
      refine ⟨base, merged, ?_, merges⟩
      rw [baseDocument, normalPath_market.2.1, has_market, ok_bind]
      simp only [readDocument_eq, text, ok_bind, read]
      rfl

theorem ensureDirectory_here {files : Files} (here : files.locate "." = .ok home)
    (stands : files.entryAt? home = some .directory) :
    (ensureDirectory ".").run files = (.ok (), files) := by
  have names : rootMark "." = "" ∧ pathNames "." = [] := by
    rw [pathNames, split_market.2.2]
    decide +kernel
  have path : joinPath "" [] = "." := by decide +kernel
  rw [ensureDirectory, names.1, names.2]
  refine run_ensureNames_of_hasDirectory (hasDirectory_iff.mpr ⟨home, ?_, stands⟩)
  rw [List.reverse_nil, List.reverse_nil, path, here]

theorem ensureDirectory_market :
    (ensureDirectory ".").run market.files = (.ok (), market.files) :=
  ensureDirectory_here locate_market.2.2 rfl

/-- A run that writes to `d` completes if the data set can be built. -/
theorem exists_run_here {shop : Shop} {line : List String} {arguments : Arguments}
    {kept : List PriceRow} {merged : Merged}
    (understood : Arguments.read buildOptions line = .ok arguments)
    (output : outputPath {} arguments = "d") (here : shop.files.locate "." = .ok home)
    (stands : shop.files.entryAt? home = some .directory)
    (place : shop.files.locate "d" = .ok ["home", "d"])
    (free : shop.files.entryAt? ["home", "d"] ≠ some .directory)
    (built : builtDataset shop.files (tablePath arguments) (outputPath {} arguments)
      (replaces arguments) = .ok (kept, merged)) :
    ∃ text shop', (buildPrices {} line).run shop = (.ok text, shop') := by
  have written : shop.files.write "d" (Text.toBytes merged.document.pretty) =
      .ok (shop.files.put ["home", "d"] (.file (Text.toBytes merged.document.pretty))) := by
    rw [Files.write, place, ok_bind]
    split
    · rename_i directory
      exact absurd directory free
    · rfl
  refine ⟨_, _, (run_buildPrices_eq_ok understood).mpr ⟨kept, merged, shop.files,
    shop.files.put ["home", "d"] (.file (Text.toBytes merged.document.pretty)), built, ?_, ?_,
    rfl, rfl⟩⟩
  · rw [output, normalPath_market.2.2]
    exact ensureDirectory_here here stands
  · rw [output, normalPath_market.2.1]
    exact written

theorem exists_run_market {further : List String} {values : List (String × String)}
    {kept : List PriceRow} {merged : Merged}
    (understood : Arguments.read buildOptions (marketOptions further) =
      .ok (marketArguments values))
    (output : outputPath {} (marketArguments values) = "d")
    (built : builtDataset market.files (tablePath (marketArguments values))
      (outputPath {} (marketArguments values)) (replaces (marketArguments values)) =
        .ok (kept, merged)) :
    ∃ text shop', (buildPrices {} (marketOptions further)).run market = (.ok text, shop') := by
  refine exists_run_here understood output locate_market.2.2 rfl locate_market.2.1 ?_ built
  intro same
  change some (Entry.file _) = _ at same
  cases same

section

variable {settings : Settings} {line : List String} {arguments : Arguments} {shop shop' : Shop}
  {text : String} {rows : List PriceRow}

/-- The command merges the least prices of the table into the data set that was there before, keeps
everything else, and counts the keys that had a price and those that had none.  The order of the
table plays no part in prices and counts. -/
theorem buildPrices_merges (understood : Arguments.read buildOptions line = .ok arguments)
    (table : tableRows shop.files (tablePath arguments) = .ok rows)
    (fuels : ∀ row ∈ rows, row.fuel ≠ "location")
    (completed : (buildPrices settings line).run shop = (.ok text, shop')) :
    ∃ base document,
      IsPrevious shop.files (outputPath settings arguments) (replaces arguments) base ∧
      shop'.files.readText (normalPath (outputPath settings arguments)) = .ok document.pretty ∧
      IsMerge rows base document ∧
      text = printed arguments .good ("Built fuel price dataset: " ++
        toString (pricedKeys rows).card ++ " rows normalized, " ++
        toString (newKeys rows base).card ++ " prices added, " ++
        toString (knownKeys rows base).card ++ " updated") ∧
      ∀ rows', rows'.Perm rows → ∃ merged,
        mergePrices base (PriceRow.cheapest rows') = .ok merged ∧
        merged.updated = (knownKeys rows base).card ∧ merged.added = (newKeys rows base).card ∧
        ∀ key ∈ pricedKeys rows,
          merged.document.follow? (Key.path key) = document.follow? (Key.path key) := by
  obtain ⟨kept, merged, files, files', built, -, written, rfl, report⟩ :=
    (run_buildPrices_eq_ok understood).mp completed
  obtain ⟨rows', base, read, found, rfl, mergedRows⟩ := exists_of_builtDataset built
  obtain rfl : rows = rows' := Except.ok.inj (table.symm.trans read)
  obtain ⟨updated, added⟩ := counts_of_mergePrices mergedRows fuels
  refine ⟨base, merged.document, isPrevious_of_baseDocument found,
    readText_of_read (read_write written), isMerge_of_mergePrices mergedRows fuels, ?_, ?_⟩
  · rw [report]
    unfold buildReport
    rw [length_cheapest, updated, added]
  · intro rows' reordered
    rw [← updated, ← added]
    exact exists_mergePrices_perm mergedRows fuels reordered

end

/-- The table of the market is merged into the data set of the market. -/
theorem buildPrices_merges_market :
    Arguments.read buildOptions (marketOptions []) = .ok (marketArguments []) ∧
      tableRows market.files (tablePath (marketArguments [])) = .ok marketRows ∧
      (∀ row ∈ marketRows, row.fuel ≠ "location") ∧
      ∃ text shop', (buildPrices {} (marketOptions [])).run market = (.ok text, shop') ∧
        ∃ base document, IsPrevious market.files "d" false base ∧
          shop'.files.readText (normalPath "d") = .ok document.pretty ∧
          IsMerge marketRows base document := by
  have understood : Arguments.read buildOptions (marketOptions []) = .ok (marketArguments []) := by
    decide +kernel
  have fuels : ∀ row ∈ marketRows, row.fuel ≠ "location" := by decide +kernel
  obtain ⟨base, merged, found, merges⟩ := exists_mergePrices_market
  obtain ⟨text, shop', completed⟩ :=
    exists_run_market understood rfl (builtDataset_market found merges)
  obtain ⟨base, document, previous, holds, merge, -⟩ :=
    buildPrices_merges understood tableRows_market fuels completed
  exact ⟨understood, tableRows_market, fuels, text, shop', completed, base, document, previous,
    holds, merge⟩

end JourneyCost.Upkeep
