import JourneyCost.Proofs.Decimal.Places
import JourneyCost.Proofs.Upkeep.Rebuilding

/-!
# Prices that can be used

The command drops prices at or below zero and rounds afterwards, and an infinite price or one that
is not a number is not dropped.  So the written prices that can be used come from a finite least
price of at least half a hundredth.
-/

namespace JourneyCost.Upkeep

open Data Files Json Decimal

/-- Whether a price is a finite number above zero. -/
def IsUsable (price : Float) : Prop := price.isFinite = true ∧ 0 < price

/-- How a price is written that is not at or below zero. -/
structure WrittenAs (price written : Float) : Prop where
  /-- Two decimal places are written. -/
  rounded : written = roundTo 2 price
  /-- Only finite prices of half a hundredth and more can be used as they are written. -/
  usable : IsUsable written ↔ price.isFinite = true ∧ 0.005 ≤ price
  /-- Smaller prices are written as zero. -/
  tiny : price.isFinite = true → ¬ 0.005 ≤ price → written = 0
  /-- What is not finite is written as it is. -/
  special : price.isFinite = false → written = price ∧ (price = infinity ∨ price = Float.nan)

theorem isUsable_roundTo_iff {price : Float} (above : ¬ price ≤ 0) :
    IsUsable (roundTo 2 price) ↔ price.isFinite = true ∧ 0.005 ≤ price := by
  rw [IsUsable, isFinite_roundTo]
  refine and_congr_right fun finite => ?_
  exact pos_roundTo_two_iff finite ((not_le_zero_iff (ne_nan_of_isFinite finite)).mp above)

theorem writtenAs_roundTo {price : Float} (above : ¬ price ≤ 0) :
    WrittenAs price (roundTo 2 price) where
  rounded := rfl
  usable := isUsable_roundTo_iff above
  tiny finite small :=
    roundTo_two_of_lt finite ((not_le_zero_iff (ne_nan_of_isFinite finite)).mp above) small
  special infinite := ⟨roundTo_of_not_isFinite 2 infinite, eq_infinity_or_nan infinite above⟩

/-- A table with a price for petrol below half a hundredth and an infinite one for diesel. -/
def stallTable : String :=
  "State,City,Fuel Type,Price\nGoa,Panaji,petrol,0.004\nGoa,Panaji,diesel,inf\n"

/-- The rows of the table. -/
def stallRows : List PriceRow :=
  [⟨"Goa", "Panaji", "petrol", 0.004, none, none⟩,
    ⟨"Goa", "Panaji", "diesel", infinity, none, none⟩]

/-- A shop with nothing but the table in the file `t`. -/
def stall : Shop :=
  ⟨⟨[(home, .directory), (["home", "t"], .file (Text.toBytes stallTable))]⟩,
    ⟨⟨[], [], [], false⟩, .empty⟩, []⟩

theorem locate_stall : stall.files.locate "t" = .ok ["home", "t"] ∧
    stall.files.locate "d" = .ok ["home", "d"] ∧ stall.files.locate "." = .ok home := by
  rw [locate, locate, locate, split_market.1, split_market.2.1, split_market.2.2]
  decide +kernel

theorem tableRows_stall : tableRows stall.files "t" = .ok stallRows := by
  have rows : (Table.Sheet.ofParts [Text.toBytes stallTable] >>= readPrices) = .ok stallRows := by
    decide +kernel
  rw [tableRows, normalPath_market.1, has, find, tableParts, locate_stall.1, ok_bind]
  exact rows

theorem exists_run_stall :
    Arguments.read buildOptions (marketOptions []) = .ok (marketArguments []) ∧
      ∃ text shop', (buildPrices {} (marketOptions [])).run stall = (.ok text, shop') := by
  have understood : Arguments.read buildOptions (marketOptions []) = .ok (marketArguments []) := by
    decide +kernel
  have absent : stall.files.has "d" = .ok false := by
    rw [has, find, locate_stall.2.1]
    rfl
  have found : baseDocument stall.files "d" false = .ok (.object []) := by
    rw [baseDocument, normalPath_market.2.1, absent, ok_bind]
    rfl
  obtain ⟨merged, merges⟩ :
      ∃ merged, mergePrices (.object []) (PriceRow.cheapest stallRows) = .ok merged :=
    exists_foldlM_add_iff.mpr fun row _ => open_empty (Key.path row.key)
  have built : builtDataset stall.files "t" "d" false =
      .ok (PriceRow.cheapest stallRows, merged) := by
    rw [builtDataset, tableRows_stall, ok_bind, found, ok_bind, merges]
    rfl
  refine ⟨understood, exists_run_here understood rfl locate_stall.2.2 rfl locate_stall.2.1 ?_ built⟩
  intro same
  cases same

section

variable {settings : Settings} {line : List String} {arguments : Arguments} {shop shop' : Shop}
  {text : String}

/-- The data set that was written holds the rounded price of every row that was kept. -/
theorem exists_readDocument_of_buildPrices
    (understood : Arguments.read buildOptions line = .ok arguments)
    (completed : (buildPrices settings line).run shop = (.ok text, shop')) :
    ∃ rows document, tableRows shop.files (tablePath arguments) = .ok rows ∧
      readDocument shop'.files (normalPath (outputPath settings arguments)) = .ok document ∧
      ∀ row ∈ PriceRow.cheapest rows, row.fuel ≠ "location" →
        document.follow? (Key.path row.key) = some (.float (roundTo 2 row.price)) := by
  obtain ⟨kept, merged, between, after, built, -, written, rfl, -⟩ :=
    (run_buildPrices_eq_ok understood).mp completed
  obtain ⟨rows, base, read, found, rfl, merges⟩ := exists_of_builtDataset built
  have readable := readable_of_mergePrices merges (readable_of_baseDocument found)
  refine ⟨rows, merged.document.sorted, read,
    readDocument_of_readText (readText_of_read (read_write written)) (read_pretty readable), ?_⟩
  intro row kept fuel
  rw [follow?_sorted (distinct_of_readable readable), follow?_path_of_mergePrices merges kept fuel]
  rfl

/-- When the command completes, the data set that it wrote holds the least price of each key of the
table, rounded to two places.  It can be used exactly if the least price is finite and at least half
a hundredth; else it is zero, infinite or not a number.  The fuel `location` is left out, because
positions are written under this name. -/
theorem buildPrices_usable_iff (understood : Arguments.read buildOptions line = .ok arguments)
    (completed : (buildPrices settings line).run shop = (.ok text, shop')) :
    ∃ rows document, tableRows shop.files (tablePath arguments) = .ok rows ∧
      readDocument shop'.files (normalPath (outputPath settings arguments)) = .ok document ∧
      ∀ key ∈ pricedKeys rows, key.2.2 ≠ "location" →
        ∃ least written, IsLeastPrice rows key least ∧ WrittenAs least written ∧
          document.follow? (Key.path key) = some (.float written) := by
  obtain ⟨rows, document, read, held, prices⟩ :=
    exists_readDocument_of_buildPrices understood completed
  refine ⟨rows, document, read, held, ?_⟩
  intro key priced fuel
  obtain ⟨row, kept, rfl⟩ := exists_mem_cheapest_of_mem_pricedKeys priced
  have above := not_le_zero_of_isUsable (PriceRow.mem_of_mem_cheapest kept).2
  exact ⟨row.price, roundTo 2 row.price, isLeastPrice_of_mem_cheapest kept,
    writtenAs_roundTo above, prices row kept fuel⟩

end

/-- The prices of the stall are written, neither of them so that it can be used. -/
theorem buildPrices_usable_iff_stall :
    Arguments.read buildOptions (marketOptions []) = .ok (marketArguments []) ∧
      ∃ text shop', (buildPrices {} (marketOptions [])).run stall = (.ok text, shop') ∧
        ∃ document, readDocument shop'.files (normalPath "d") = .ok document ∧
          ∀ key ∈ pricedKeys stallRows, key.2.2 ≠ "location" →
            ∃ least written, IsLeastPrice stallRows key least ∧ WrittenAs least written ∧
              document.follow? (Key.path key) = some (.float written) := by
  obtain ⟨understood, text, shop', completed⟩ := exists_run_stall
  obtain ⟨rows, document, read, held, prices⟩ := buildPrices_usable_iff understood completed
  obtain rfl : stallRows = rows := Except.ok.inj (tableRows_stall.symm.trans read)
  exact ⟨understood, text, shop', completed, document, held, prices⟩

/-- Whether every price that a run of the command writes from its table can be used. -/
def WritesUsable (settings : Settings) (line : List String) (shop : Shop) : Prop :=
  ∀ arguments text shop' rows document,
    Arguments.read buildOptions line = .ok arguments →
    (buildPrices settings line).run shop = (.ok text, shop') →
    tableRows shop.files (tablePath arguments) = .ok rows →
    readDocument shop'.files (normalPath (outputPath settings arguments)) = .ok document →
    ∀ key ∈ pricedKeys rows, key.2.2 ≠ "location" → ∀ price,
      document.follow? (Key.path key) = some (.float price) → IsUsable price

/-- The price of petrol at the stall is above zero and is written as zero. -/
theorem not_writesUsable_stall : ¬ WritesUsable {} (marketOptions []) stall := by
  intro usable
  obtain ⟨understood, text, shop', completed⟩ := exists_run_stall
  obtain ⟨rows, document, read, held, prices⟩ :=
    exists_readDocument_of_buildPrices understood completed
  obtain rfl : stallRows = rows := Except.ok.inj (tableRows_stall.symm.trans read)
  have priced : ("Goa", "Panaji", "petrol") ∈ pricedKeys stallRows :=
    mem_pricedKeys.mpr ⟨_, List.mem_cons_self, by decide +kernel, rfl⟩
  have petrol : ∀ row ∈ stallRows, row.key = ("Goa", "Panaji", "petrol") → row.price = 0.004 := by
    simp [stallRows, PriceRow.key]
  obtain ⟨row, kept, about⟩ := exists_mem_cheapest_of_mem_pricedKeys priced
  have fuel : row.fuel ≠ "location" := by
    rw [show row.fuel = "petrol" from congrArg (·.2.2) about]
    decide
  have zero : roundTo 2 row.price = 0 := by
    rw [petrol row (PriceRow.mem_of_mem_cheapest kept).1 about]
    decide +kernel
  have written := prices row kept fuel
  rw [about, zero] at written
  obtain ⟨-, positive⟩ :=
    usable _ _ _ _ _ understood completed read held _ priced (by decide) 0 written
  exact absurd positive (by decide +kernel)

end JourneyCost.Upkeep
