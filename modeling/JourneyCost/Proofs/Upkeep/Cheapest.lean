import JourneyCost.Proofs.Decimal.Order
import JourneyCost.Upkeep.PriceRow

/-!
# The cheapest rows of a price table

Rows are kept one for each key, in the order of the keys, and the row that is kept has the least
price of all usable rows for its key.  Which key is kept at which price does not depend on the order
of the table.
-/

namespace JourneyCost.Upkeep

/-- What a price is for: a state, a city and a kind of fuel. -/
abbrev Key : Type := String × String × String

/-- Keys in the order of states, cities and kinds of fuel. -/
abbrev KeyPlace : Type := String ×ₗ String ×ₗ String

/-- The place of a key. -/
def Key.placed (key : Key) : KeyPlace := toLex (key.1, toLex key.2)

theorem Key.placed_inj {key key' : Key} : key.placed = key'.placed ↔ key = key' := Iff.rfl

namespace PriceRow

open Decimal

/-- The place of the key of a row. -/
def keyPlace (row : PriceRow) : KeyPlace := Key.placed row.key

/-- The place of a row: by its key, then by its price. -/
def place (row : PriceRow) : KeyPlace ×ₗ Rank := toLex (row.keyPlace, rank row.price)

theorem priceLe_iff {x y : Float} : priceLe x y = true ↔ rank x ≤ rank y := by
  rw [priceLe, Bool.or_eq_true, decide_eq_true_iff, le_iff, Float.isNaN_eq_decide_eq_nan,
    decide_eq_true_iff]
  by_cases undefined : y = Float.nan
  · simp [undefined, rank_le_nan]
  · simp [undefined]

theorem le_iff_place {a b : PriceRow} : le a b = true ↔ a.place ≤ b.place := by
  unfold le place keyPlace Key.placed key
  rw [Prod.Lex.toLex_le_toLex, Prod.Lex.toLex_lt_toLex, Prod.Lex.toLex_lt_toLex, ← priceLe_iff]
  by_cases state : a.state = b.state <;> by_cases city : a.city = b.city <;>
    by_cases fuel : a.fuel = b.fuel <;> simp [state, city, fuel]

theorem sorted_mergeSort (rows : List PriceRow) :
    (rows.mergeSort le).Pairwise fun a b => a.place ≤ b.place := by
  refine (List.pairwise_mergeSort ?_ ?_ rows).imp fun less => le_iff_place.mp less
  · intro a b c first second
    exact le_iff_place.mpr (le_trans (le_iff_place.mp first) (le_iff_place.mp second))
  · intro a b
    rw [Bool.or_eq_true, le_iff_place, le_iff_place]
    exact le_total _ _

theorem keyPlace_le_of_place_le {a b : PriceRow} (less : a.place ≤ b.place) :
    a.keyPlace ≤ b.keyPlace := by
  rcases Prod.Lex.toLex_le_toLex.mp less with lower | ⟨same, -⟩
  · exact le_of_lt lower
  · exact le_of_eq same

theorem rank_le_of_place_le {a b : PriceRow} (less : a.place ≤ b.place) (same : a.key = b.key) :
    rank a.price ≤ rank b.price := by
  rcases Prod.Lex.toLex_le_toLex.mp less with lower | ⟨-, price⟩
  · exact absurd (Key.placed_inj.mpr same) (ne_of_lt lower)
  · exact price

theorem firstAfter_sublist (key : Key) (rows : List PriceRow) :
    (firstAfter key rows).Sublist rows := by
  induction rows generalizing key with
  | nil => exact List.Sublist.refl []
  | cons row more induction =>
      rw [firstAfter]
      split
      · exact (induction key).cons row
      · exact (induction row.key).cons_cons row

theorem firstOfEach_sublist (rows : List PriceRow) : (firstOfEach rows).Sublist rows := by
  cases rows with
  | nil => exact List.Sublist.refl []
  | cons row more => exact (firstAfter_sublist row.key more).cons_cons row

theorem pairwise_firstAfter {key : Key} {rows : List PriceRow}
    (sorted : rows.Pairwise fun a b => a.place ≤ b.place)
    (above : ∀ row ∈ rows, Key.placed key ≤ row.keyPlace) :
    (∀ row ∈ firstAfter key rows, Key.placed key < row.keyPlace) ∧
      (firstAfter key rows).Pairwise fun a b => a.keyPlace < b.keyPlace := by
  induction rows generalizing key with
  | nil => exact ⟨fun row member => absurd member List.not_mem_nil, List.Pairwise.nil⟩
  | cons first more induction =>
      obtain ⟨least, sorted⟩ := List.pairwise_cons.mp sorted
      have further : ∀ row ∈ more, first.keyPlace ≤ row.keyPlace := fun row member =>
        keyPlace_le_of_place_le (least row member)
      have head : Key.placed key ≤ first.keyPlace := above first List.mem_cons_self
      rw [firstAfter]
      split
      · exact induction sorted fun row member => head.trans (further row member)
      · rename_i different
        have strict : Key.placed key < first.keyPlace := by
          refine lt_of_le_of_ne head fun same => different ?_
          rw [beq_iff_eq]
          exact (Key.placed_inj.mp same).symm
        obtain ⟨beyond, ascending⟩ := induction sorted further
        refine ⟨?_, List.pairwise_cons.mpr ⟨beyond, ascending⟩⟩
        intro row member
        obtain rfl | kept := List.mem_cons.mp member
        · exact strict
        · exact strict.trans (beyond row kept)

theorem pairwise_firstOfEach {rows : List PriceRow}
    (sorted : rows.Pairwise fun a b => a.place ≤ b.place) :
    (firstOfEach rows).Pairwise fun a b => a.keyPlace < b.keyPlace := by
  cases rows with
  | nil => exact List.Pairwise.nil
  | cons first more =>
      obtain ⟨least, sorted⟩ := List.pairwise_cons.mp sorted
      exact List.pairwise_cons.mpr (pairwise_firstAfter sorted fun row member =>
        keyPlace_le_of_place_le (least row member))

theorem exists_mem_cons_firstAfter {first row : PriceRow} {more : List PriceRow}
    (least : ∀ other ∈ more, first.place ≤ other.place) (member : row ∈ first :: more)
    (further : row ∈ more → row.key ≠ first.key →
      ∃ kept ∈ firstAfter first.key more, kept.key = row.key ∧ kept.place ≤ row.place) :
    ∃ kept ∈ first :: firstAfter first.key more, kept.key = row.key ∧ kept.place ≤ row.place := by
  obtain rfl | later := List.mem_cons.mp member
  · exact ⟨row, List.mem_cons_self, rfl, le_refl _⟩
  · by_cases same : row.key = first.key
    · exact ⟨first, List.mem_cons_self, same.symm, least row later⟩
    · obtain ⟨kept, found, about, less⟩ := further later same
      exact ⟨kept, List.mem_cons_of_mem first found, about, less⟩

theorem exists_mem_firstAfter {key : Key} {rows : List PriceRow} {row : PriceRow}
    (sorted : rows.Pairwise fun a b => a.place ≤ b.place) (member : row ∈ rows)
    (different : row.key ≠ key) :
    ∃ kept ∈ firstAfter key rows, kept.key = row.key ∧ kept.place ≤ row.place := by
  induction rows generalizing key with
  | nil => exact absurd member List.not_mem_nil
  | cons first more induction =>
      obtain ⟨least, sorted⟩ := List.pairwise_cons.mp sorted
      rw [firstAfter]
      split
      · rename_i same
        obtain rfl | later := List.mem_cons.mp member
        · exact absurd (beq_iff_eq.mp same) different
        · exact induction sorted later different
      · exact exists_mem_cons_firstAfter least member fun later same => induction sorted later same

theorem exists_mem_firstOfEach {rows : List PriceRow} {row : PriceRow}
    (sorted : rows.Pairwise fun a b => a.place ≤ b.place) (member : row ∈ rows) :
    ∃ kept ∈ firstOfEach rows, kept.key = row.key ∧ kept.place ≤ row.place := by
  cases rows with
  | nil => exact absurd member List.not_mem_nil
  | cons first more =>
      obtain ⟨least, sorted⟩ := List.pairwise_cons.mp sorted
      exact exists_mem_cons_firstAfter least member fun later same =>
        exists_mem_firstAfter sorted later same

section

variable {rows : List PriceRow} {row kept : PriceRow}

theorem mem_usable_iff : row ∈ (rows.filter isUsable).mergeSort le ↔
    row ∈ rows ∧ row.isUsable = true := by
  rw [List.mem_mergeSort, List.mem_filter]

theorem mem_of_mem_cheapest (member : row ∈ cheapest rows) : row ∈ rows ∧ row.isUsable = true :=
  mem_usable_iff.mp ((firstOfEach_sublist _).subset member)

/-- Rows are kept in the order of their keys, one for each. -/
theorem ascending_cheapest (rows : List PriceRow) :
    (cheapest rows).Pairwise fun a b => a.keyPlace < b.keyPlace :=
  pairwise_firstOfEach (sorted_mergeSort _)

theorem exists_mem_cheapest (member : row ∈ rows) (usable : row.isUsable = true) :
    ∃ kept ∈ cheapest rows, kept.key = row.key ∧ rank kept.price ≤ rank row.price := by
  obtain ⟨kept, found, same, less⟩ :=
    exists_mem_firstOfEach (sorted_mergeSort _) (mem_usable_iff.mpr ⟨member, usable⟩)
  exact ⟨kept, found, same, rank_le_of_place_le less same⟩

theorem nodup_cheapest (rows : List PriceRow) : ((cheapest rows).map key).Nodup := by
  rw [List.Nodup, List.pairwise_map]
  exact (ascending_cheapest rows).imp fun less same =>
    absurd (Key.placed_inj.mpr same) (ne_of_lt less)

theorem eq_of_mem_cheapest (first : row ∈ cheapest rows) (second : kept ∈ cheapest rows)
    (same : row.key = kept.key) : row = kept :=
  List.inj_on_of_nodup_map (nodup_cheapest rows) first second same

end

end PriceRow

/-- Whether a price is the least one of the usable rows for a key. -/
def IsLeastPrice (rows : List PriceRow) (key : Key) (price : Float) : Prop :=
  (∃ row ∈ rows, row.isUsable = true ∧ row.key = key ∧ row.price = price) ∧
    ∀ row ∈ rows, row.isUsable = true → row.key = key → PriceRow.priceLe price row.price = true

/-- The keys that a table has usable rows for. -/
def pricedKeys (rows : List PriceRow) : Finset Key :=
  ((rows.filter PriceRow.isUsable).map PriceRow.key).toFinset

section

open Decimal PriceRow

variable {rows : List PriceRow} {row : PriceRow} {key : Key} {price other : Float}

theorem mem_pricedKeys :
    key ∈ pricedKeys rows ↔ ∃ row ∈ rows, row.isUsable = true ∧ row.key = key := by
  simp only [pricedKeys, List.mem_toFinset, List.mem_map, List.mem_filter, and_assoc]

theorem key_mem_pricedKeys {row : PriceRow} (member : row ∈ cheapest rows) :
    row.key ∈ pricedKeys rows := by
  obtain ⟨inTable, usable⟩ := mem_of_mem_cheapest member
  exact mem_pricedKeys.mpr ⟨row, inTable, usable, rfl⟩

theorem exists_mem_cheapest_of_mem_pricedKeys {key : Key} (priced : key ∈ pricedKeys rows) :
    ∃ row ∈ cheapest rows, row.key = key := by
  obtain ⟨row, member, usable, about⟩ := mem_pricedKeys.mp priced
  obtain ⟨kept, found, same, -⟩ := exists_mem_cheapest member usable
  exact ⟨kept, found, same.trans about⟩

theorem toFinset_cheapest (rows : List PriceRow) :
    ((cheapest rows).map PriceRow.key).toFinset = pricedKeys rows := by
  ext key
  rw [List.mem_toFinset, List.mem_map]
  constructor
  · rintro ⟨row, member, rfl⟩
    exact key_mem_pricedKeys member
  · exact exists_mem_cheapest_of_mem_pricedKeys

theorem length_cheapest (rows : List PriceRow) :
    (cheapest rows).length = (pricedKeys rows).card := by
  rw [← toFinset_cheapest, List.toFinset_card_of_nodup (nodup_cheapest rows), List.length_map]

/-- The row that is kept for a key has the least price. -/
theorem isLeastPrice_of_mem_cheapest (member : row ∈ cheapest rows) :
    IsLeastPrice rows row.key row.price := by
  obtain ⟨inTable, usable⟩ := mem_of_mem_cheapest member
  refine ⟨⟨row, inTable, usable, rfl, rfl⟩, ?_⟩
  intro other otherInTable otherUsable about
  obtain ⟨kept, found, same, less⟩ := exists_mem_cheapest otherInTable otherUsable
  rw [priceLe_iff]
  rwa [eq_of_mem_cheapest member found (about.symm.trans same.symm)]

theorem not_le_zero_of_isUsable (usable : row.isUsable = true) : ¬ row.price ≤ 0 := by
  simp only [isUsable, Bool.and_eq_true, Bool.not_eq_true', decide_eq_false_iff_not] at usable
  exact usable.1.1.1

theorem rank_price_ne_of_isUsable (usable : row.isUsable = true) : rank row.price ≠ rank 0 :=
  fun same => not_le_zero_of_isUsable usable (le_iff.mpr ⟨le_of_eq same, nan_ne_zero⟩)

/-- A key has one least price: floats of one rank are equal unless they are zeros. -/
theorem IsLeastPrice.unique (first : IsLeastPrice rows key price)
    (second : IsLeastPrice rows key other) : price = other := by
  obtain ⟨⟨row, member, usable, about, rfl⟩, least⟩ := first
  obtain ⟨⟨row', member', usable', about', rfl⟩, least'⟩ := second
  have below := priceLe_iff.mp (least row' member' usable' about')
  have above := priceLe_iff.mp (least' row member usable about)
  exact eq_of_rank_eq (le_antisymm below above) (rank_price_ne_of_isUsable usable)

theorem pricedKeys_perm {rows rows' : List PriceRow} (reordered : rows'.Perm rows) :
    pricedKeys rows' = pricedKeys rows := by
  ext key
  simp only [mem_pricedKeys, reordered.mem_iff]

theorem isLeastPrice_perm {rows rows' : List PriceRow} (reordered : rows'.Perm rows) :
    IsLeastPrice rows' key price ↔ IsLeastPrice rows key price := by
  simp only [IsLeastPrice, reordered.mem_iff]

end

end JourneyCost.Upkeep
