import JourneyCost.Data.Library
import JourneyCost.Fuel.Estimate
import JourneyCost.Proofs.Decimal.Order
import JourneyCost.Proofs.Fault
import JourneyCost.Proofs.Work

/-!
# Sources of a fuel price

Whether prices are fetched is decided before the sources are tried, and by another test.  The two
agree on all amounts that are numbers, so a caller who pays an amount of his own never depends on
the data set.
-/

namespace JourneyCost.Fuel

open Data

/-- An amount is named and is more than nothing. -/
def Pays (amount : Option Float) : Prop := ∃ x, amount = some x ∧ 0 < x

/-- The caller pays no amount of his own. -/
def Offer.PaysNothing (offer : Offer) : Prop := ¬ Pays offer.total ∧ ¬ Pays offer.perLitre

/-- The source that names an entry. -/
def Entry.source (entry : Entry) : String := "dataset:" ++ entry.state ++ "/" ++ entry.city

/-- An entry belongs to a region, in any case. -/
def Entry.IsOf (region : String) (entry : Entry) : Prop :=
  Text.lower entry.state = Text.lower region

/-- The estimates of the sources in their order; each applies when those before it do not. -/
inductive Quotes (pricing : Pricing) (offer : Offer) (prices : List Entry) (litres : Float) :
    Estimate → Prop
  /-- The caller's total stands, whatever fuel costs. -/
  | total {total : Float} : offer.total = some total → 0 < total →
      Quotes pricing offer prices litres
        ⟨litres, .float (if 0 < litres then total / litres else 0), total, "user_total_cost"⟩
  /-- The caller's price of a litre. -/
  | perLitre {price : Float} : ¬ Pays offer.total → offer.perLitre = some price → 0 < price →
      Quotes pricing offer prices litres
        ⟨litres, .float price, litres * price, "user_per_litre_price"⟩
  /-- The first entry of the preferred region. -/
  | region {before after : List Entry} {entry : Entry} : offer.PaysNothing →
      prices = before ++ entry :: after → (∀ earlier ∈ before, ¬ earlier.IsOf pricing.region) →
      entry.IsOf pricing.region →
      Quotes pricing offer prices litres
        ⟨litres, .float entry.price, litres * entry.price, entry.source⟩
  /-- The first entry, if there is none of the region. -/
  | first {after : List Entry} {entry : Entry} : offer.PaysNothing → prices = entry :: after →
      (∀ other ∈ prices, ¬ other.IsOf pricing.region) →
      Quotes pricing offer prices litres
        ⟨litres, .float entry.price, litres * entry.price, entry.source⟩
  /-- The fixed price, if there are no entries. -/
  | fallback {price : Float} : offer.PaysNothing → prices = [] →
      pricing.fallback.toNumber = .ok price →
      Quotes pricing offer prices litres ⟨litres, pricing.fallback, litres * price, "fallback"⟩

variable {pricing : Pricing} {offer : Offer} {prices : List Entry} {litres fallback : Float}
  {amount : Option Float} {σ : Type}

/-- The test before prices are fetched. -/
theorem isPositive_iff : isPositive amount = true ↔ Pays amount := by
  cases amount <;> simp [isPositive, Pays]

/-- The guard of a source lets through what the test counts, unless it is not a number. -/
theorem named?_eq_some_iff (defined : ∀ x, amount = some x → x.isNaN = false) {x : Float} :
    named? amount = some x ↔ amount = some x ∧ 0 < x := by
  rw [named?, Option.filter_eq_some_iff]
  refine and_congr_right fun given => ?_
  have number : x ≠ Float.nan := by simpa [Float.isNaN_eq_decide_eq_nan] using defined x given
  simpa using Decimal.not_le_zero_iff number

theorem named?_eq_none_iff (defined : ∀ x, amount = some x → x.isNaN = false) :
    named? amount = none ↔ ¬ Pays amount := by
  rw [Option.eq_none_iff_forall_ne_some, Pays, not_exists]
  exact forall_congr' fun x => not_congr (named?_eq_some_iff defined)

theorem needsPrices_iff : offer.needsPrices = true ↔ offer.PaysNothing := by
  rw [Offer.needsPrices, Bool.not_eq_true', Bool.or_eq_false_iff, ← Bool.not_eq_true,
    ← Bool.not_eq_true, isPositive_iff, isPositive_iff]
  rfl

theorem preferred?_eq_none_iff {region : String} :
    preferred? region prices = none ↔ prices = [] := by
  cases prices <;> simp [preferred?]

/-- The entry that is offered is the first of the region, or the first if there is none of it. -/
theorem preferred?_eq_some_iff {region : String} {entry : Entry} :
    preferred? region prices = some entry ↔
      (∃ before after, prices = before ++ entry :: after ∧
        (∀ earlier ∈ before, ¬ earlier.IsOf region) ∧ entry.IsOf region) ∨
      (∃ after, prices = entry :: after) ∧ ∀ other ∈ prices, ¬ other.IsOf region := by
  rw [preferred?, Option.or_eq_some_iff, List.find?_eq_some_iff_append, List.find?_eq_none,
    List.head?_eq_some_iff]
  simp only [Entry.IsOf, Bool.not_eq_true', beq_eq_false_iff_ne, beq_iff_eq, ne_eq]
  constructor
  · rintro (⟨isOf, before, after, split, others⟩ | ⟨others, first⟩)
    · exact .inl ⟨before, after, split, others, isOf⟩
    · exact .inr ⟨first, others⟩
  · rintro (⟨before, after, split, others, isOf⟩ | ⟨first, others⟩)
    · exact .inl ⟨isOf, before, after, split, others⟩
    · exact .inr ⟨others, first⟩

section

variable (totalDefined : ∀ x, offer.total = some x → x.isNaN = false)
  (rateDefined : ∀ x, offer.perLitre = some x → x.isNaN = false)

include totalDefined rateDefined

theorem named?_of_paysNothing (nothing : offer.PaysNothing) :
    named? offer.total = none ∧ named? offer.perLitre = none :=
  ⟨(named?_eq_none_iff totalDefined).mpr nothing.1, (named?_eq_none_iff rateDefined).mpr nothing.2⟩

theorem quotes_of_quote {estimate : Estimate}
    (quoted : quote pricing offer prices litres = .ok estimate) :
    Quotes pricing offer prices litres estimate := by
  unfold quote at quoted
  cases whole : named? offer.total with
  | some total =>
      rw [whole] at quoted
      obtain rfl := Except.ok.inj quoted
      obtain ⟨given, positive⟩ := (named?_eq_some_iff totalDefined).mp whole
      exact .total given positive
  | none =>
      have noTotal := (named?_eq_none_iff totalDefined).mp whole
      cases rate : named? offer.perLitre with
      | some price =>
          rw [whole, rate] at quoted
          obtain rfl := Except.ok.inj quoted
          obtain ⟨given, positive⟩ := (named?_eq_some_iff rateDefined).mp rate
          exact .perLitre noTotal given positive
      | none =>
          have nothing : offer.PaysNothing := ⟨noTotal, (named?_eq_none_iff rateDefined).mp rate⟩
          cases offered : preferred? pricing.region prices with
          | some entry =>
              simp only [whole, rate, offered] at quoted
              obtain rfl := Except.ok.inj quoted
              rcases preferred?_eq_some_iff.mp offered with
                ⟨before, after, split, others, isOf⟩ | ⟨⟨after, split⟩, others⟩
              · exact .region nothing split others isOf
              · exact .first nothing split others
          | none =>
              simp only [whole, rate, offered] at quoted
              obtain ⟨price, number, made⟩ := bind_eq_ok.mp quoted
              obtain rfl := Except.ok.inj made
              exact .fallback nothing (preferred?_eq_none_iff.mp offered) number

theorem quote_of_quotes {estimate : Estimate}
    (quotes : Quotes pricing offer prices litres estimate) :
    quote pricing offer prices litres = .ok estimate := by
  have unpaid := named?_of_paysNothing totalDefined rateDefined
  unfold quote
  cases quotes with
  | total given positive =>
      rw [(named?_eq_some_iff totalDefined).mpr ⟨given, positive⟩]
  | perLitre noTotal given positive =>
      rw [(named?_eq_none_iff totalDefined).mpr noTotal,
        (named?_eq_some_iff rateDefined).mpr ⟨given, positive⟩]
      rfl
  | region nothing split others isOf =>
      rw [(unpaid nothing).1, (unpaid nothing).2,
        preferred?_eq_some_iff.mpr (.inl ⟨_, _, split, others, isOf⟩)]
      rfl
  | first nothing split others =>
      rw [(unpaid nothing).1, (unpaid nothing).2,
        preferred?_eq_some_iff.mpr (.inr ⟨⟨_, split⟩, others⟩)]
      rfl
  | fallback nothing empty number =>
      rw [(unpaid nothing).1, (unpaid nothing).2, preferred?_eq_none_iff.mpr empty]
      simp only [atFallback, number]
      rfl

/-- The first source that applies gives the estimate, and nothing else does. -/
theorem quote_eq_ok_iff {estimate : Estimate} :
    quote pricing offer prices litres = .ok estimate ↔
      Quotes pricing offer prices litres estimate :=
  ⟨quotes_of_quote totalDefined rateDefined, quote_of_quotes totalDefined rateDefined⟩

/-- Every case has its source, as long as the fixed price is a number. -/
theorem exists_quotes (number : pricing.fallback.toNumber = .ok fallback) :
    ∃ estimate, Quotes pricing offer prices litres estimate := by
  simp only [← quote_eq_ok_iff totalDefined rateDefined]
  unfold quote
  split
  · exact ⟨_, rfl⟩
  · split
    · exact ⟨_, rfl⟩
    · split
      · exact ⟨_, rfl⟩
      · rw [atFallback, number]
        exact ⟨_, rfl⟩

end

/-- The sources before the data set do not look at it. -/
theorem Quotes.of_pays {others : List Entry} {estimate : Estimate}
    (quotes : Quotes pricing offer prices litres estimate)
    (pays : Pays offer.total ∨ Pays offer.perLitre) :
    Quotes pricing offer others litres estimate := by
  have something : ¬ offer.PaysNothing := fun nothing => pays.elim nothing.1 nothing.2
  cases quotes with
  | total given positive => exact .total given positive
  | perLitre noTotal given positive => exact .perLitre noTotal given positive
  | region nothing | first nothing | fallback nothing => exact absurd nothing something

section

variable {fetch : Work σ (List Entry)} {distanceKm mileage : Float} {s s' : σ}

theorem litresFor_of_pos (driven : 0 < mileage) :
    litresFor distanceKm (some mileage) = .ok (distanceKm / mileage) :=
  if_neg (Decimal.not_le_zero_of_pos driven)

theorem run_estimate_of_pays (driven : 0 < mileage)
    (pays : Pays offer.total ∨ Pays offer.perLitre) :
    (estimate pricing offer fetch distanceKm (some mileage)).run s =
      (quote pricing offer [] (distanceKm / mileage), s) := by
  have unneeded : offer.needsPrices = false := by
    rw [← Bool.not_eq_true, needsPrices_iff]
    exact fun nothing => pays.elim nothing.1 nothing.2
  simp only [estimate, litresFor_of_pos driven, unneeded, Work.ofExcept_eq]
  rfl

theorem run_estimate_of_fetched (driven : 0 < mileage) (nothing : offer.PaysNothing)
    (fetched : fetch.run s = (.ok prices, s')) :
    (estimate pricing offer fetch distanceKm (some mileage)).run s =
      (quote pricing offer prices (distanceKm / mileage), s') := by
  simp only [estimate, litresFor_of_pos driven, needsPrices_iff.mpr nothing, Work.ofExcept_eq,
    if_true]
  exact Work.run_bind_of_ok fetched

theorem run_estimate_of_failed (driven : 0 < mileage) (nothing : offer.PaysNothing) {fault : Fault}
    (failed : fetch.run s = (.error fault, s')) :
    (estimate pricing offer fetch distanceKm (some mileage)).run s = (.error fault, s') := by
  simp only [estimate, litresFor_of_pos driven, needsPrices_iff.mpr nothing, Work.ofExcept_eq,
    if_true]
  exact (Work.run_bind_of_ok rfl).trans (Work.run_bind_eq_error.mpr (.inl failed))

end

/-- Fuel is priced from the first source that applies, and from nothing else, whether prices are at
hand or loaded from a data set.  A caller who pays an amount of his own gets the same estimate from
all data sets, also from one that cannot be loaded, and leaves the library as it is.  Any other
estimate is made with the entries that are loaded, and fails when they cannot be. -/
theorem estimate_follows_sources {distanceKm mileage : Float} (driven : 0 < mileage)
    (totalDefined : ∀ x, offer.total = some x → x.isNaN = false)
    (rateDefined : ∀ x, offer.perLitre = some x → x.isNaN = false)
    (number : pricing.fallback.toNumber = .ok fallback) :
    (∀ prices, (∃ e, Quotes pricing offer prices (distanceKm / mileage) e) ∧
      ∀ (library : Library) (e : Estimate),
        (estimate pricing offer (pure prices : Work Library _) distanceKm (some mileage)).run
            library = (.ok e, library) ↔
          Quotes pricing offer prices (distanceKm / mileage) e) ∧
    (Pays offer.total ∨ Pays offer.perLitre →
      ∃ e, (∀ prices, Quotes pricing offer prices (distanceKm / mileage) e) ∧
        ∀ files path kind library,
          (estimate pricing offer (Library.loadPrices files path kind) distanceKm
            (some mileage)).run library = (.ok e, library)) ∧
    (offer.PaysNothing → ∀ files path kind library after,
      (∀ prices, (Library.loadPrices files path kind).run library = (.ok prices, after) →
        ∃ e, Quotes pricing offer prices (distanceKm / mileage) e ∧
          (estimate pricing offer (Library.loadPrices files path kind) distanceKm
            (some mileage)).run library = (.ok e, after)) ∧
      ∀ fault, (Library.loadPrices files path kind).run library = (.error fault, after) →
        (estimate pricing offer (Library.loadPrices files path kind) distanceKm
          (some mileage)).run library = (.error fault, after)) := by
  have quoted : ∀ {prices e}, quote pricing offer prices (distanceKm / mileage) = .ok e ↔
      Quotes pricing offer prices (distanceKm / mileage) e :=
    quote_eq_ok_iff totalDefined rateDefined
  have offered : ∀ prices, ∃ e, Quotes pricing offer prices (distanceKm / mileage) e :=
    fun prices => exists_quotes totalDefined rateDefined number
  refine ⟨fun prices => ⟨offered prices, fun library e => ?_⟩, fun pays => ?_,
    fun nothing files path kind library after => ⟨fun prices loaded => ?_, fun fault failed => ?_⟩⟩
  · by_cases pays : Pays offer.total ∨ Pays offer.perLitre
    · rw [run_estimate_of_pays driven pays, Prod.mk.injEq, and_iff_left rfl, quoted]
      exact ⟨fun quotes => quotes.of_pays pays, fun quotes => quotes.of_pays pays⟩
    · rw [run_estimate_of_fetched driven (not_or.mp pays) (Work.run_pure prices library),
        Prod.mk.injEq, and_iff_left rfl, quoted]
  · obtain ⟨e, quotes⟩ := offered []
    refine ⟨e, fun prices => quotes.of_pays pays, fun files path kind library => ?_⟩
    rw [run_estimate_of_pays driven pays, quoted.mpr quotes]
  · obtain ⟨e, quotes⟩ := offered prices
    exact ⟨e, quotes, by rw [run_estimate_of_fetched driven nothing loaded, quoted.mpr quotes]⟩
  · exact run_estimate_of_failed driven nothing failed

/-- Amounts that are not positive do not count, and the capital is found in the second place. -/
theorem estimate_follows_sources_capital :
    let pricing : Pricing := ⟨"Delhi", .int 110⟩
    let offer : Offer := ⟨some (-0), some (-1)⟩
    let prices : List Entry := [⟨"Assam", "Dispur", 90.5, none⟩, ⟨"DELHI", "Rohini", 95.5, none⟩]
    (0 : Float) < 15 ∧ pricing.fallback.toNumber = .ok 110 ∧ offer.PaysNothing ∧
      ∀ library : Library,
        (estimate pricing offer (pure prices : Work Library _) 300 (some 15)).run library =
          (.ok ⟨20, .float 95.5, 1910, "dataset:DELHI/Rohini"⟩, library) := by
  intro pricing offer prices
  have driven : (0 : Float) < 15 := by decide +kernel
  have number : pricing.fallback.toNumber = .ok 110 := by
    have integer : Decimal.floatOfInt? 110 = some 110 := by decide +kernel
    simp [pricing, Json.toNumber, integer]
  have totalDefined : ∀ x, offer.total = some x → x.isNaN = false := by
    rintro x ⟨⟩
    decide +kernel
  have rateDefined : ∀ x, offer.perLitre = some x → x.isNaN = false := by
    rintro x ⟨⟩
    decide +kernel
  have nothing : offer.PaysNothing := by
    rw [← needsPrices_iff]
    decide +kernel
  obtain ⟨atHand, -, -⟩ := estimate_follows_sources driven totalDefined rateDefined number
  refine ⟨driven, number, nothing, fun library => ((atHand prices).2 library _).mpr ?_⟩
  have litres : (300 / 15 : Float) = 20 := by decide +kernel
  have total : (20 * 95.5 : Float) = 1910 := by decide +kernel
  rw [litres, ← total]
  have elsewhere : ¬ Entry.IsOf pricing.region ⟨"Assam", "Dispur", 90.5, none⟩ := by
    change ¬ Text.lower "Assam" = Text.lower "Delhi"
    decide +kernel
  have inDelhi : Entry.IsOf pricing.region ⟨"DELHI", "Rohini", 95.5, none⟩ := by
    change Text.lower "DELHI" = Text.lower "Delhi"
    decide +kernel
  exact .region nothing (List.singleton_append.symm) (by simpa using elsewhere) inDelhi

end JourneyCost.Fuel
