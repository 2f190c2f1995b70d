import JourneyCost.Proofs.Geo.Distance
import JourneyCost.Proofs.Toll.Charging

/-!
# The plaza that stands for an identity

Of the plazas in range that share an identity the first one of the data set stands for it.  So the
order of the data set matters only among plazas of one identity, and a larger range takes a toll
away only by a free plaza that comes to stand first.
-/

namespace JourneyCost.Toll

/-- A plaza has a toll greater than zero. -/
def Plaza.IsPriced (category : String) (plaza : Plaza) : Prop :=
  ∃ fee, plaza.fee category = .ok fee ∧ 0 < fee

/-- The tolls that a bill charges. -/
def charged (route : List Point) (threshold : Float) (category : String) (plazas : List Plaza) :
    List Due :=
  (firsts sameIdentity (passing route threshold plazas)).filterMap (due? category)

/-- The tolls that are charged for an identity. -/
def chargedFor (key : Json) (route : List Point) (threshold : Float) (category : String)
    (plazas : List Plaza) : List Due :=
  (charged route threshold category plazas).filter fun due => sameIdentity key due.identity

/-- Whether a plaza is in range and has an identity. -/
def stands (key : Json) (route : List Point) (threshold : Float) (plaza : Plaza) : Bool :=
  (passed? route threshold plaza).any fun passed => sameIdentity key passed.identity

/-- All plazas in range with an identity have a toll, or none of them has one. -/
def Agree (key : Json) (route : List Point) (threshold : Float) (category : String)
    (plazas : List Plaza) : Prop :=
  ∀ a ∈ plazas, ∀ b ∈ plazas, stands key route threshold a = true →
    stands key route threshold b = true → a.IsPriced category → b.IsPriced category

variable {key : Json} {route longer : List Point} {threshold higher : Float} {category : String}
  {plazas other : List Plaza} {plaza : Plaza}

theorem passed?_eq_some_iff {passed : Passed} :
    passed? route threshold plaza = some passed ↔
      passed.plaza = plaza ∧ plaza.location = some passed.place ∧
        Geo.distanceToRoute passed.place route = .ok passed.distance ∧
        ¬ threshold < passed.distance ∧ isIdentity plaza.identity = true := by
  unfold passed?
  cases located : plaza.location with
  | none => simp
  | some place =>
      rw [Option.bind_some]
      cases measured : Geo.distanceToRoute place route with
      | error fault =>
          simp only [reduceCtorEq, false_iff, Option.some.injEq]
          rintro ⟨-, rfl, found, -⟩
          rw [measured] at found
          cases found
      | ok distance =>
          obtain ⟨plaza', place', distance'⟩ := passed
          simp only [Bool.and_eq_true, Bool.not_eq_true', decide_eq_false_iff_not,
            Option.ite_none_right_eq_some, Option.some.injEq, Passed.mk.injEq]
          constructor
          · rintro ⟨⟨near, identified⟩, rfl, rfl, rfl⟩
            exact ⟨rfl, rfl, measured, near, identified⟩
          · rintro ⟨rfl, rfl, found, near, identified⟩
            obtain rfl := Except.ok.inj (measured.symm.trans found)
            exact ⟨⟨near, identified⟩, rfl, rfl, rfl⟩

theorem stands_iff :
    stands key route threshold plaza = true ↔
      (passed? route threshold plaza).isSome = true ∧
        sameIdentity key plaza.identity = true := by
  unfold stands
  cases found : passed? route threshold plaza with
  | none => simp
  | some passed => simp [Passed.identity, (passed?_eq_some_iff.mp found).1]

theorem isSome_due?_iff {passed : Passed} :
    (due? category passed).isSome = true ↔ passed.plaza.IsPriced category := by
  unfold due? Plaza.IsPriced
  cases passed.plaza.fee category with
  | error fault => simp
  | ok fee => by_cases above : 0 < fee <;> simp [above]

instance (category : String) (plaza : Plaza) : Decidable (plaza.IsPriced category) :=
  decidable_of_iff ((due? category ⟨plaza, ⟨0, 0⟩, 0⟩).isSome = true) isSome_due?_iff

/-- Leaving out the plazas whose identity is that of an earlier one keeps the first plaza of each
identity. -/
theorem find?_firsts (key : Json) (passed : List Passed) :
    (firsts sameIdentity passed).find? (fun member => sameIdentity key member.identity) =
      passed.find? fun member => sameIdentity key member.identity := by
  induction passed using List.reverseRecOn with
  | nil => rfl
  | append_singleton front last induction =>
      rw [firsts_concat, List.find?_append, List.find?_append, induction]
      split
      · rename_i known
        obtain ⟨earlier, member, same⟩ := List.any_eq_true.mp known
        -- A plaza that is left out is found neither way: one with its identity stands before it.
        cases matched : sameIdentity key last.identity with
        | false => simp [matched]
        | true =>
            have found : (front.find? fun member => sameIdentity key member.identity).isSome :=
              List.find?_isSome.mpr ⟨earlier, member, sameIdentity_trans matched same⟩
            rw [Option.or_of_isSome found, Option.or_of_isSome found]
      · rfl

theorem filter_eq_toList_find? {α : Type} {p : α → Bool} {l : List α}
    (apart : l.Pairwise fun a b => p a = true → p b = false) :
    l.filter p = (l.find? p).toList := by
  induction l with
  | nil => rfl
  | cons a rest induction =>
      obtain ⟨here, later⟩ := List.pairwise_cons.mp apart
      cases matched : p a with
      | false => rw [List.filter_cons_of_neg (by simp [matched]), induction later,
          List.find?_cons_of_neg (by simp [matched])]
      | true =>
          have nothing : rest.filter p = [] :=
            List.filter_eq_nil_iff.mpr fun b member => by simp [here b member matched]
          rw [List.filter_cons_of_pos matched, nothing, List.find?_cons_of_pos matched]
          rfl

theorem filter_firsts (key : Json) (passed : List Passed) :
    (firsts sameIdentity passed).filter (fun member => sameIdentity key member.identity) =
      (passed.find? fun member => sameIdentity key member.identity).toList := by
  rw [← find?_firsts]
  refine filter_eq_toList_find? ((pairwise_firsts passed).imp ?_)
  rintro a b ⟨differ, -⟩ first
  refine Bool.eq_false_iff.mpr fun second => ?_
  rw [sameIdentity_trans (sameIdentity_symm first) second] at differ
  cases differ

theorem filter_due? (key : Json) (passed : Passed) :
    (due? category passed).filter (fun due => sameIdentity key due.identity) =
      if sameIdentity key passed.identity then due? category passed else none := by
  cases found : due? category passed with
  | none => simp
  | some due => rw [Option.filter_some, toPassed_of_due? found]

/-- The toll of an identity is that of its first plaza in range. -/
theorem chargedFor_eq :
    chargedFor key route threshold category plazas =
      (((plazas.find? (stands key route threshold)).bind (passed? route threshold)).bind
        (due? category)).toList := by
  have first : (passing route threshold plazas).find?
      (fun member => sameIdentity key member.identity) =
        (plazas.find? (stands key route threshold)).bind (passed? route threshold) :=
    List.find?_filterMap
  have members := filter_firsts key (passing route threshold plazas)
  rw [first] at members
  have filtered := congrArg (List.filterMap (due? category)) members
  rw [List.filterMap_filter] at filtered
  rw [chargedFor, charged, List.filter_filterMap]
  simp only [filter_due?]
  rw [filtered]
  cases (plazas.find? (stands key route threshold)).bind (passed? route threshold) with
  | none => rfl
  | some passed => cases found : due? category passed <;> simp [found]

/-- An identity is charged at most once. -/
theorem length_chargedFor_le : (chargedFor key route threshold category plazas).length ≤ 1 := by
  rw [chargedFor_eq]
  cases ((plazas.find? (stands key route threshold)).bind (passed? route threshold)).bind
    (due? category) <;> simp

/-- An identity is charged exactly if its first plaza in range has a toll. -/
theorem chargedFor_ne_nil_iff :
    chargedFor key route threshold category plazas ≠ [] ↔
      ∃ first, plazas.find? (stands key route threshold) = some first ∧
        first.IsPriced category := by
  rw [chargedFor_eq]
  cases found : plazas.find? (stands key route threshold) with
  | none => simp
  | some first =>
      obtain ⟨inRange, -⟩ := stands_iff.mp (List.find?_some found)
      obtain ⟨passed, isPassed⟩ := Option.isSome_iff_exists.mp inRange
      have priced : (due? category passed).isSome = true ↔ passed.plaza.IsPriced category :=
        isSome_due?_iff
      rw [(passed?_eq_some_iff.mp isPassed).1] at priced
      simp [isPassed, ← priced, Option.isSome_iff_ne_none]

theorem chargedFor_ne_nil_iff_of_agree (agree : Agree key route threshold category plazas) :
    chargedFor key route threshold category plazas ≠ [] ↔
      ∃ plaza ∈ plazas, stands key route threshold plaza = true ∧ plaza.IsPriced category := by
  rw [chargedFor_ne_nil_iff]
  constructor
  · rintro ⟨first, found, priced⟩
    exact ⟨first, List.mem_of_find?_eq_some found, List.find?_some found, priced⟩
  · rintro ⟨plaza, member, standing, priced⟩
    have some : (plazas.find? (stands key route threshold)).isSome = true :=
      List.find?_isSome.mpr ⟨plaza, member, standing⟩
    obtain ⟨first, found⟩ := Option.isSome_iff_exists.mp some
    exact ⟨first, found, agree plaza member first (List.mem_of_find?_eq_some found) standing
      (List.find?_some found) priced⟩

/-- An order that leaves the plazas of an identity in their order leaves its toll as it is. -/
theorem chargedFor_congr
    (same : other.filter (stands key route threshold) =
      plazas.filter (stands key route threshold)) :
    chargedFor key route threshold category other =
      chargedFor key route threshold category plazas := by
  rw [chargedFor_eq, chargedFor_eq, ← List.head?_filter, ← List.head?_filter, same]

theorem agree_of_perm (reordered : other.Perm plazas)
    (agree : Agree key route threshold category plazas) :
    Agree key route threshold category other := fun a memberA b memberB =>
  agree a (reordered.mem_iff.mp memberA) b (reordered.mem_iff.mp memberB)

theorem chargedFor_ne_nil_iff_of_perm (reordered : other.Perm plazas)
    (agree : Agree key route threshold category plazas) :
    chargedFor key route threshold category other ≠ [] ↔
      chargedFor key route threshold category plazas ≠ [] := by
  rw [chargedFor_ne_nil_iff_of_agree agree,
    chargedFor_ne_nil_iff_of_agree (agree_of_perm reordered agree)]
  simp only [reordered.mem_iff]

/-- A distance in range stays in range if it shrinks or the threshold is raised. -/
theorem not_lt_of_raised {near far : Float} (raised : threshold = higher ∨ threshold ≤ higher)
    (defined : far ≠ Float.nan) (closer : Decimal.rank near ≤ Decimal.rank far)
    (inRange : ¬ threshold < far) : ¬ higher < near := by
  intro outside
  apply inRange
  obtain ⟨above, -⟩ := Decimal.lt_iff.mp outside
  refine Decimal.lt_iff.mpr ⟨lt_of_le_of_lt ?_ (above.trans_le closer), defined⟩
  rcases raised with rfl | raised
  · exact le_rfl
  · exact (Decimal.le_iff.mp raised).1

theorem isSome_passed?_of_raised (raised : threshold = higher ∨ threshold ≤ higher)
    (subset : route ⊆ longer)
    (measurable : ∀ place, plaza.location = some place →
      ∃ distance, Geo.distanceToRoute place longer = .ok distance)
    (inRange : (passed? route threshold plaza).isSome = true) :
    (passed? longer higher plaza).isSome = true := by
  obtain ⟨passed, found⟩ := Option.isSome_iff_exists.mp inRange
  obtain ⟨-, located, measured, near, identified⟩ := passed?_eq_some_iff.mp found
  obtain ⟨distance, measured'⟩ := measurable _ located
  have closer := Geo.rank_least_le_of_subset subset measured measured'
  have near' := not_lt_of_raised raised (Geo.nearest_least measured).defined closer near
  exact Option.isSome_iff_exists.mpr ⟨⟨plaza, passed.place, distance⟩,
    passed?_eq_some_iff.mpr ⟨rfl, located, measured', near', identified⟩⟩

theorem stands_of_raised (raised : threshold = higher ∨ threshold ≤ higher)
    (subset : route ⊆ longer)
    (measurable : ∀ place, plaza.location = some place →
      ∃ distance, Geo.distanceToRoute place longer = .ok distance)
    (standing : stands key route threshold plaza = true) :
    stands key longer higher plaza = true := by
  obtain ⟨inRange, same⟩ := stands_iff.mp standing
  exact stands_iff.mpr ⟨isSome_passed?_of_raised raised subset measurable inRange, same⟩

/-- A first plaza that already was in range is the first plaza that was in range. -/
theorem find?_of_imp {α : Type} {p q : α → Bool} {l : List α} {first : α}
    (more : ∀ a ∈ l, p a = true → q a = true) (found : l.find? q = some first)
    (before : p first = true) : l.find? p = some first := by
  obtain ⟨-, front, back, rfl, others⟩ := List.find?_eq_some_iff_append.mp found
  refine List.find?_eq_some_iff_append.mpr ⟨before, front, back, rfl, fun a member => ?_⟩
  have notLater := others a member
  rw [Bool.not_eq_true'] at notLater ⊢
  refine Bool.eq_false_iff.mpr fun matched => ?_
  rw [more a (List.mem_append_left _ member) matched] at notLater
  cases notLater

theorem chargedFor_ne_nil_iff_of_raised (raised : threshold = higher ∨ threshold ≤ higher)
    (subset : route ⊆ longer)
    (measurable : ∀ plaza ∈ plazas, ∀ place, plaza.location = some place →
      ∃ distance, Geo.distanceToRoute place longer = .ok distance)
    (before : chargedFor key route threshold category plazas ≠ []) :
    chargedFor key longer higher category plazas ≠ [] ↔
      ∀ first, plazas.find? (stands key longer higher) = some first →
        stands key route threshold first = false → first.IsPriced category := by
  obtain ⟨early, found, priced⟩ := chargedFor_ne_nil_iff.mp before
  have more : ∀ plaza ∈ plazas, stands key route threshold plaza = true →
      stands key longer higher plaza = true := fun plaza member =>
    stands_of_raised raised subset (measurable plaza member)
  rw [chargedFor_ne_nil_iff]
  constructor
  · rintro ⟨first, isFirst, pricedFirst⟩ first' isFirst' -
    obtain rfl := Option.some.inj (isFirst.symm.trans isFirst')
    exact pricedFirst
  · intro pricedNew
    have some : (plazas.find? (stands key longer higher)).isSome = true :=
      List.find?_isSome.mpr ⟨early, List.mem_of_find?_eq_some found,
        more early (List.mem_of_find?_eq_some found) (List.find?_some found)⟩
    obtain ⟨first, isFirst⟩ := Option.isSome_iff_exists.mp some
    refine ⟨first, isFirst, ?_⟩
    cases standing : stands key route threshold first with
    | false => exact pricedNew first isFirst standing
    | true =>
        obtain rfl := Option.some.inj (found.symm.trans (find?_of_imp more isFirst standing))
        exact priced

/-! ## Bills -/

theorem charges_of_bill {result : Bill} (made : bill route threshold category plazas = .ok result) :
    result.charges = (charged route threshold category plazas).map Due.charge := by
  obtain ⟨tally, visited, made⟩ := bind_eq_ok.mp made
  obtain rfl := Except.ok.inj made
  rw [foldlM_visit] at visited
  exact (charges_foldlM visited).charges

theorem exists_bill {outcome : Except Fault Bill} (made : outcome.toOption.isSome = true) :
    ∃ result, outcome = .ok result := by
  cases outcome with
  | error fault => cases made
  | ok result => exact ⟨result, rfl⟩

/-- A bill charges an identity at most once, and exactly if the first plaza in range with this
identity has a toll; so if any has one, as long as they agree on having one.  The identities that
are charged do not depend on the order of the data set, except for the order of plazas of one
identity that do not agree.  With more points on the route, none of them out of the domain of the
distance, and a threshold that is not lower, an identity that was charged is charged again, unless a
free plaza that was out of range is now the first one. -/
theorem bill_charges_identity {result : Bill}
    (made : bill route threshold category plazas = .ok result) (key : Json) :
    result.charges = (charged route threshold category plazas).map Due.charge ∧
      (chargedFor key route threshold category plazas).length ≤ 1 ∧
      (chargedFor key route threshold category plazas ≠ [] ↔
        ∃ first, plazas.find? (stands key route threshold) = some first ∧
          first.IsPriced category) ∧
      (Agree key route threshold category plazas →
        (chargedFor key route threshold category plazas ≠ [] ↔
          ∃ plaza ∈ plazas, stands key route threshold plaza = true ∧ plaza.IsPriced category)) ∧
      (∀ other : List Plaza, other.Perm plazas →
        other.filter (stands key route threshold) = plazas.filter (stands key route threshold) ∨
          Agree key route threshold category plazas →
        (chargedFor key route threshold category other ≠ [] ↔
          chargedFor key route threshold category plazas ≠ [])) ∧
      ∀ (longer : List Point) (higher : Float), route ⊆ longer →
        threshold = higher ∨ threshold ≤ higher →
        (∀ plaza ∈ plazas, ∀ place, plaza.location = some place →
          ∃ distance, Geo.distanceToRoute place longer = .ok distance) →
        chargedFor key route threshold category plazas ≠ [] →
        (chargedFor key longer higher category plazas ≠ [] ↔
          ∀ first, plazas.find? (stands key longer higher) = some first →
            stands key route threshold first = false → first.IsPriced category) := by
  refine ⟨charges_of_bill made, length_chargedFor_le, chargedFor_ne_nil_iff,
    chargedFor_ne_nil_iff_of_agree, ?_, ?_⟩
  · rintro other reordered (inOrder | agree)
    · rw [chargedFor_congr inOrder]
    · exact chargedFor_ne_nil_iff_of_perm reordered agree
  · intro longer higher subset raised measurable before
    exact chargedFor_ne_nil_iff_of_raised raised subset measurable before

/-- Two plazas of one identity that both have a toll, in both orders, and a free one, on an empty
route with an infinite range. -/
theorem bill_charges_identity_both_priced :
    let north : Plaza := ⟨.text "NH44", "Murthal", some ⟨77, 29⟩, [("car", .float 110)], []⟩
    let south : Plaza := ⟨.text "NH44", "Murthal", some ⟨77, 28⟩, [("car", .float 90)], []⟩
    let free : Plaza := ⟨.null, "Panipat", some ⟨76, 29⟩, [], []⟩
    let infinity := Decimal.infinity
    (∃ result, bill [] infinity "car" [north, free, south] = .ok result) ∧
      Agree (.text "NH44") [] infinity "car" [north, free, south] ∧
      chargedFor (.text "NH44") [] infinity "car" [north, free, south] ≠ [] ∧
      chargedFor (.text "NH44") [] infinity "car" [free, south, north] ≠ [] := by
  intro north south free infinity
  have pricedNorth : north.IsPriced "car" := by decide +kernel
  have pricedSouth : south.IsPriced "car" := by decide +kernel
  have standing : stands (.text "NH44") [] infinity north = true := by decide +kernel
  have other : stands (.text "NH44") [] infinity free = false := by decide +kernel
  have agree : Agree (.text "NH44") [] infinity "car" [north, free, south] := by
    intro a _ b memberB _ standsB _
    simp only [List.mem_cons, List.not_mem_nil, or_false] at memberB
    rcases memberB with rfl | rfl | rfl
    · exact pricedNorth
    · rw [other] at standsB
      cases standsB
    · exact pricedSouth
  obtain ⟨result, made⟩ : ∃ result, bill [] infinity "car" [north, free, south] = .ok result :=
    exists_bill (by decide +kernel)
  obtain ⟨-, -, -, charged, reordered, -⟩ := bill_charges_identity made (.text "NH44")
  have inOrder := (charged agree).mpr ⟨north, List.mem_cons_self, standing, pricedNorth⟩
  have moved : [free, south, north].Perm [north, free, south] :=
    List.perm_append_singleton north [free, south]
  exact ⟨⟨result, made⟩, agree, inOrder, (reordered _ moved (.inr agree)).mpr inOrder⟩

/-- A free plaza before one of the same identity that has a toll: the identity is not charged,
although it is in the other order.  A point whose longitude is infinite takes every plaza out of
range. -/
theorem not_bill_charges_priced :
    (¬ ∀ (route : List Point) (threshold : Float) (category : String) (plazas : List Plaza)
        (result : Bill) (key : Json), bill route threshold category plazas = .ok result →
      (chargedFor key route threshold category plazas ≠ [] ↔
        ∃ plaza ∈ plazas, stands key route threshold plaza = true ∧ plaza.IsPriced category)) ∧
    (¬ ∀ (route : List Point) (threshold : Float) (category : String) (plazas other : List Plaza)
        (result result' : Bill) (key : Json), other.Perm plazas →
      bill route threshold category plazas = .ok result →
      bill route threshold category other = .ok result' →
      (chargedFor key route threshold category other ≠ [] ↔
        chargedFor key route threshold category plazas ≠ [])) ∧
    ¬ ∀ (route longer : List Point) (threshold : Float) (category : String)
        (plazas : List Plaza) (result result' : Bill) (key : Json), route ⊆ longer →
      bill route threshold category plazas = .ok result →
      bill longer threshold category plazas = .ok result' →
      chargedFor key route threshold category plazas ≠ [] →
      chargedFor key longer threshold category plazas ≠ [] := by
  let free : Plaza := ⟨.text "A", "A", some ⟨77, 29⟩, [("car", .float 0)], []⟩
  let priced : Plaza := ⟨.text "A", "A", some ⟨77, 29⟩, [("car", .float 20)], []⟩
  let key : Json := .text "A"
  let infinity := Decimal.infinity
  obtain ⟨result, made⟩ : ∃ result, bill [] infinity "car" [free, priced] = .ok result :=
    exists_bill (by decide +kernel)
  obtain ⟨result', made'⟩ : ∃ result, bill [] infinity "car" [priced, free] = .ok result :=
    exists_bill (by decide +kernel)
  obtain ⟨result'', made''⟩ :
      ∃ result, bill [⟨infinity, 29⟩] infinity "car" [priced, free] = .ok result :=
    exists_bill (by decide +kernel)
  have nothing : chargedFor key [] infinity "car" [free, priced] = [] :=
    List.eq_nil_of_length_eq_zero (by decide +kernel)
  have something : chargedFor key [] infinity "car" [priced, free] ≠ [] :=
    List.ne_nil_of_length_pos (by decide +kernel)
  have outOfRange : chargedFor key [⟨infinity, 29⟩] infinity "car" [priced, free] = [] :=
    List.eq_nil_of_length_eq_zero (by decide +kernel)
  have isPriced : priced.IsPriced "car" := by decide +kernel
  have standing : stands key [] infinity priced = true := by decide +kernel
  refine ⟨fun all => ?_, fun all => ?_, fun all => ?_⟩
  · have charged := (all [] infinity "car" [free, priced] result key made).mpr
      ⟨priced, by simp, standing, isPriced⟩
    exact charged nothing
  · have charged := (all [] infinity "car" [priced, free] [free, priced] result' result key
      (List.Perm.swap priced free []) made' made).mpr something
    exact charged nothing
  · exact all [] [⟨infinity, 29⟩] infinity "car" [priced, free] result' result'' key
      (List.nil_subset _) made' made'' something outOfRange

end JourneyCost.Toll
