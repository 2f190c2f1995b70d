import JourneyCost.Proofs.Upkeep.Merging

/-!
# The data set after a merge

After the cheapest rows of a table were merged, every key with usable rows has its least price, a
city has the position of one of the rows that were kept for it, and every other value is what it
was.  The counts tell how many keys had a price before.
-/

namespace JourneyCost.Upkeep

open Decimal Json

/-- What a table makes of a data set. -/
structure IsMerge (rows : List PriceRow) (base document : Json) : Prop where
  /-- Every key with usable rows has its least price, rounded to two places. -/
  prices : ∀ key ∈ pricedKeys rows, ∃ price, IsLeastPrice rows key price ∧
    document.follow? (Key.path key) = some (.float (roundTo 2 price))
  /-- A city for which a row with a position was kept has the position of such a row. -/
  positions : ∀ row ∈ PriceRow.cheapest rows, row.position?.isSome →
    ∃ kept ∈ PriceRow.cheapest rows, kept.position?.isSome ∧ kept.state = row.state ∧
      kept.city = row.city ∧ document.follow? (positionPath row.state row.city) = kept.position?
  /-- Every value elsewhere is what it was, and nothing is where nothing was. -/
  kept : ∀ path, (∀ key ∈ pricedKeys rows, Apart (Key.path key) path) →
    (∀ row ∈ PriceRow.cheapest rows, row.position?.isSome →
      Apart (positionPath row.state row.city) path) →
    document.follow? path = base.follow? path
  /-- On the way to a price there are objects. -/
  ways : ∀ key ∈ pricedKeys rows, ∀ path, path <+: Key.path key → path ≠ Key.path key →
    ∃ fields, document.follow? path = some (.object fields)

section

variable {rows : List PriceRow} {base : Json} {merged : Merged}

theorem mem_flatMap_writes {write : List String × Json} :
    write ∈ (PriceRow.cheapest rows).flatMap PriceRow.writes ↔
      ∃ row ∈ PriceRow.cheapest rows,
        write = (Key.path row.key, .float (roundTo 2 row.price)) ∨
          ∃ position, row.position? = some position ∧
            write = (positionPath row.state row.city, position) := by
  simp only [List.mem_flatMap, PriceRow.mem_writes]

theorem length_of_mem_flatMap_writes {write : List String × Json}
    (member : write ∈ (PriceRow.cheapest rows).flatMap PriceRow.writes) : write.1.length = 3 := by
  obtain ⟨row, -, inRow⟩ := List.mem_flatMap.mp member
  exact PriceRow.length_of_mem_writes inRow

variable (completed : mergePrices base (PriceRow.cheapest rows) = .ok merged)

include completed

/-- The price for a key, other than a price for what is called like a position. -/
theorem follow?_path_of_mergePrices {row : PriceRow} (member : row ∈ PriceRow.cheapest rows)
    (fuel : row.fuel ≠ "location") :
    merged.document.follow? (Key.path row.key) = some (.float (roundTo 2 row.price)) := by
  obtain ⟨write, found, here, value⟩ := follow?_graftAll?_mem (graftAll?_of_foldlM_add completed)
    (fun write member => (length_of_mem_flatMap_writes member).trans rfl)
    ⟨(Key.path row.key, .float (roundTo 2 row.price)),
      mem_flatMap_writes.mpr ⟨row, member, .inl rfl⟩, rfl⟩
  obtain ⟨other, kept, rfl | ⟨position, -, rfl⟩⟩ := mem_flatMap_writes.mp found
  · rw [value, PriceRow.eq_of_mem_cheapest kept member (Key.path_inj.mp here)]
  · exact absurd here (positionPath_ne_path fuel other.state other.city)

/-- The position of a city for which a row with a position was kept. -/
theorem follow?_positionPath_of_mergePrices
    (fuels : ∀ row ∈ PriceRow.cheapest rows, row.fuel ≠ "location") {row : PriceRow}
    (member : row ∈ PriceRow.cheapest rows) (located : row.position?.isSome) :
    ∃ kept ∈ PriceRow.cheapest rows, kept.position?.isSome ∧ kept.state = row.state ∧
      kept.city = row.city ∧
      merged.document.follow? (positionPath row.state row.city) = kept.position? := by
  obtain ⟨position, has⟩ := Option.isSome_iff_exists.mp located
  obtain ⟨write, found, here, value⟩ := follow?_graftAll?_mem (graftAll?_of_foldlM_add completed)
    (fun write member => (length_of_mem_flatMap_writes member).trans rfl)
    ⟨(positionPath row.state row.city, position),
      mem_flatMap_writes.mpr ⟨row, member, .inr ⟨position, has, rfl⟩⟩, rfl⟩
  obtain ⟨other, kept, rfl | ⟨position', has', rfl⟩⟩ := mem_flatMap_writes.mp found
  · exact absurd here.symm (positionPath_ne_path (fuels other kept) row.state row.city)
  · simp only [positionPath, List.cons.injEq, and_true] at here
    exact ⟨other, kept, by simp [has'], here.1, here.2, by rw [value, has']⟩

/-- What is on no way to a price or a position that was put is as it was. -/
theorem follow?_of_apart_of_mergePrices {path : List String}
    (prices : ∀ key ∈ pricedKeys rows, Apart (Key.path key) path)
    (positions : ∀ row ∈ PriceRow.cheapest rows, row.position?.isSome →
      Apart (positionPath row.state row.city) path) :
    merged.document.follow? path = base.follow? path := by
  refine follow?_graftAll?_apart (graftAll?_of_foldlM_add completed) ?_
  intro write member
  obtain ⟨row, kept, rfl | ⟨position, has, rfl⟩⟩ := mem_flatMap_writes.mp member
  · exact prices row.key (key_mem_pricedKeys kept)
  · exact positions row kept (by simp [has])

theorem follow?_way_of_mergePrices {key : Key} (priced : key ∈ pricedKeys rows)
    {path : List String} (way : path <+: Key.path key) (short : path ≠ Key.path key) :
    ∃ fields, merged.document.follow? path = some (.object fields) := by
  obtain ⟨row, kept, rfl⟩ := exists_mem_cheapest_of_mem_pricedKeys priced
  have shorter : path.length < 3 :=
    Nat.lt_of_le_of_ne way.length_le fun same => short (way.eq_of_length same)
  refine follow?_graftAll?_way (graftAll?_of_foldlM_add completed) ?_
    ⟨_, mem_flatMap_writes.mpr ⟨row, kept, .inl rfl⟩, way⟩
  intro write member
  rwa [length_of_mem_flatMap_writes member]

/-- The data set after the cheapest rows of a table were merged. -/
theorem isMerge_of_mergePrices (fuels : ∀ row ∈ rows, row.fuel ≠ "location") :
    IsMerge rows base merged.document where
  prices key priced := by
    obtain ⟨row, kept, rfl⟩ := exists_mem_cheapest_of_mem_pricedKeys priced
    exact ⟨row.price, isLeastPrice_of_mem_cheapest kept, follow?_path_of_mergePrices completed kept
      (fuels row (PriceRow.mem_of_mem_cheapest kept).1)⟩
  positions _ member located := follow?_positionPath_of_mergePrices completed
    (fun kept found => fuels kept (PriceRow.mem_of_mem_cheapest found).1) member located
  kept _ prices positions := follow?_of_apart_of_mergePrices completed prices positions
  ways _ priced _ way short := follow?_way_of_mergePrices completed priced way short

end

/-- The keys of a table that a data set has a price for. -/
def knownKeys (rows : List PriceRow) (base : Json) : Finset Key :=
  (pricedKeys rows).filter fun key => (base.follow? (Key.path key)).isSome

/-- The keys of a table that a data set has no price for. -/
def newKeys (rows : List PriceRow) (base : Json) : Finset Key :=
  (pricedKeys rows).filter fun key => (base.follow? (Key.path key)).isNone

section

variable {rows : List PriceRow} {base : Json} {merged : Merged}

theorem countP_cheapest (rows : List PriceRow) (holds : Key → Bool) :
    (PriceRow.cheapest rows).countP (fun row => holds row.key) =
      ((pricedKeys rows).filter fun key => holds key = true).card := by
  have distinct := (PriceRow.nodup_cheapest rows).filter holds
  rw [← toFinset_cheapest, ← List.toFinset_filter, List.toFinset_card_of_nodup distinct,
    List.filter_map, List.length_map, List.countP_eq_length_filter]
  rfl

/-- Prices are updated for the keys that had one before, and added for the others. -/
theorem counts_of_mergePrices (completed : mergePrices base (PriceRow.cheapest rows) = .ok merged)
    (fuels : ∀ row ∈ rows, row.fuel ≠ "location") :
    merged.updated = (knownKeys rows base).card ∧ merged.added = (newKeys rows base).card := by
  obtain ⟨updated, added⟩ := counts_of_foldlM_add completed (PriceRow.nodup_cheapest rows)
    fun row member => fuels row (PriceRow.mem_of_mem_cheapest member).1
  rw [Nat.zero_add] at updated added
  constructor
  · exact updated.trans (countP_cheapest rows fun key => (base.follow? (Key.path key)).isSome)
  · simp only [PriceRow.isIn, Option.not_isSome] at added
    exact added.trans (countP_cheapest rows fun key => (base.follow? (Key.path key)).isNone)

/-- Of a table in another order come the same counts and the same prices. -/
theorem exists_mergePrices_perm (completed : mergePrices base (PriceRow.cheapest rows) = .ok merged)
    (fuels : ∀ row ∈ rows, row.fuel ≠ "location") {rows' : List PriceRow}
    (reordered : rows'.Perm rows) :
    ∃ merged', mergePrices base (PriceRow.cheapest rows') = .ok merged' ∧
      merged'.updated = merged.updated ∧ merged'.added = merged.added ∧
      ∀ key ∈ pricedKeys rows,
        merged'.document.follow? (Key.path key) = merged.document.follow? (Key.path key) := by
  have fuels' : ∀ row ∈ rows', row.fuel ≠ "location" := fun row member =>
    fuels row (reordered.mem_iff.mp member)
  have sameKeys := pricedKeys_perm reordered
  have opened : ∀ row ∈ PriceRow.cheapest rows', Open base (Key.path row.key) := by
    intro row member
    obtain ⟨kept, found, same⟩ :=
      exists_mem_cheapest_of_mem_pricedKeys (sameKeys ▸ key_mem_pricedKeys member)
    exact same ▸ exists_foldlM_add_iff.mp ⟨merged, completed⟩ kept found
  obtain ⟨merged', completed'⟩ :
      ∃ merged', mergePrices base (PriceRow.cheapest rows') = .ok merged' :=
    exists_foldlM_add_iff.mpr opened
  obtain ⟨updated, added⟩ := counts_of_mergePrices completed fuels
  obtain ⟨updated', added'⟩ := counts_of_mergePrices completed' fuels'
  refine ⟨merged', completed', ?_, ?_, ?_⟩
  · rw [updated, updated', knownKeys, knownKeys, sameKeys]
  · rw [added, added', newKeys, newKeys, sameKeys]
  · intro key priced
    obtain ⟨price, least, found⟩ := (isMerge_of_mergePrices completed fuels).prices key priced
    obtain ⟨price', least', found'⟩ :=
      (isMerge_of_mergePrices completed' fuels').prices key (sameKeys ▸ priced)
    rw [found, found', ((isLeastPrice_perm reordered).mp least').unique least]

end

end JourneyCost.Upkeep
