import JourneyCost.Proofs.Fault
import JourneyCost.Proofs.Json.Number
import JourneyCost.Proofs.Toll.Charging

/-!
# Plazas that cannot be assessed

A plaza that cannot be assessed leaves no trace: the bill is that of the other plazas.  The one
exception is a toll that no float can hold.  It leaves the whole journey without a bill, if its
plaza is one that a bill would charge.
-/

namespace JourneyCost.Toll

open Json (IsHuge)

/-- The first candidate for the toll of a class that is not passed over is an integer that no float
can hold. -/
def HugeFee (category : String) (plaza : Plaza) : Prop :=
  ∃ before value after, candidates plaza category = before ++ value :: after ∧
    (∀ earlier ∈ before, usableFee earlier = .ok none) ∧ value.IsHuge

variable {fault : Fault}

theorem usableFee_eq_error_iff {candidate : Json} :
    usableFee candidate = .error fault ↔ fault = .overflow ∧ candidate.IsHuge := by
  cases candidate with
  | int value =>
      by_cases outside : Decimal.overflowLimit ≤ value.natAbs
      · simp [usableFee, Decimal.floatOfInt?, IsHuge, outside, eq_comm]
      · simp [usableFee, Decimal.floatOfInt?, IsHuge, outside]
  | null | bool | float | text | list | object => simp [usableFee, IsHuge]

theorem firstUsable_eq_error_iff {candidates : List Json} :
    firstUsable candidates = .error fault ↔
      fault = .overflow ∧ ∃ before value after, candidates = before ++ value :: after ∧
        (∀ earlier ∈ before, usableFee earlier = .ok none) ∧ value.IsHuge := by
  induction candidates with
  | nil => simp [firstUsable]
  | cons candidate more induction =>
      rw [firstUsable, bind_eq_error, usableFee_eq_error_iff]
      constructor
      · rintro (⟨overflow, huge⟩ | ⟨found, passedOver, later⟩)
        · exact ⟨overflow, [], candidate, more, rfl, by simp, huge⟩
        · cases found with
          | some fee => cases later
          | none =>
              obtain ⟨overflow, before, value, after, rfl, unusable, huge⟩ := induction.mp later
              refine ⟨overflow, candidate :: before, value, after, rfl, ?_, huge⟩
              exact List.forall_mem_cons.mpr ⟨passedOver, unusable⟩
      · rintro ⟨overflow, before, value, after, split, unusable, huge⟩
        cases before with
        | nil =>
            obtain ⟨rfl, rfl⟩ := List.cons.inj split
            exact .inl ⟨overflow, huge⟩
        | cons head before =>
            obtain ⟨rfl, rfl⟩ := List.cons.inj split
            obtain ⟨passedOver, unusableRest⟩ := List.forall_mem_cons.mp unusable
            exact .inr ⟨none, passedOver,
              induction.mpr ⟨overflow, before, value, after, rfl, unusableRest, huge⟩⟩

theorem fee_eq_error_iff {plaza : Plaza} {category : String} :
    plaza.fee category = .error fault ↔ fault = .overflow ∧ HugeFee category plaza :=
  firstUsable_eq_error_iff

theorem addNew_eq_error_iff {tally : Tally} {plaza : Plaza} {category : String} {place : Point}
    {distance : Float} :
    tally.addNew plaza category place distance = .error fault ↔
      fault = .overflow ∧ HugeFee category plaza := by
  rw [Tally.addNew, bind_eq_error, fee_eq_error_iff]
  constructor
  · rintro (failed | ⟨fee, -, added⟩)
    · exact failed
    · split at added <;> cases added
  · exact .inl

theorem meet_foldlM_eq_error_iff {category : String} {passed : List Passed} :
    passed.foldlM (Tally.meet category) .start = .error fault ↔
      fault = .overflow ∧ ∃ first ∈ firsts sameIdentity passed, HugeFee category first.plaza := by
  induction passed using List.reverseRecOn generalizing fault with
  | nil => simp [firsts, pure, Except.pure]
  | append_singleton front last induction =>
      rw [List.foldlM_append, firsts_concat]
      simp only [List.foldlM_cons, List.foldlM_nil, bind_pure, List.mem_append, or_and_right,
        exists_or]
      refine bind_eq_error_iff_or (fun _ => induction) fun tally met => ?_
      rw [Tally.meet, (charges_foldlM met).any_seen]
      split
      · simp
      · simpa using addNew_eq_error_iff

theorem bill_eq_error_iff {route : List Point} {threshold : Float} {category : String}
    {plazas : List Plaza} :
    bill route threshold category plazas = .error fault ↔
      fault = .overflow ∧ ∃ first ∈ firsts sameIdentity (passing route threshold plazas),
        HugeFee category first.plaza := by
  rw [← meet_foldlM_eq_error_iff, ← foldlM_visit, bill, bind_eq_error]
  simp [pure, Except.pure]

/-- The bill after a plaza if no fault is forgiven. -/
def Tally.assess (route : List Point) (threshold : Float) (category : String) (tally : Tally)
    (plaza : Plaza) : Except Fault Tally := do
  match ← onRoute? route threshold plaza with
  | none => return tally
  | some (place, distance) =>
    if !isIdentity plaza.identity then throw .wrongKind
    if tally.seen.any (sameIdentity plaza.identity) then return tally
    tally.addNew plaza category place distance

theorem visit_eq_recoverWhen (route : List Point) (threshold : Float) (category : String)
    (tally : Tally) (plaza : Plaza) :
    tally.visit route threshold category plaza =
      recoverWhen isSkipped tally (tally.assess route threshold category plaza) := rfl

variable {route : List Point} {threshold : Float} {category : String}

theorem onRoute?_eq_error {plaza : Plaza}
    (failed : onRoute? route threshold plaza = .error fault) : fault = .malformed := by
  unfold onRoute? at failed
  cases located : plaza.location with
  | none =>
      rw [located] at failed
      cases failed
  | some place =>
      rw [located] at failed
      rcases bind_eq_error.mp failed with unmeasured | ⟨distance, -, returned⟩
      · exact Geo.distanceToRoute_eq_error unmeasured
      · cases returned

/-- A plaza that cannot be assessed is passed over, or has a toll that no float can hold. -/
theorem isSkipped_of_assess {tally : Tally} {plaza : Plaza}
    (failed : tally.assess route threshold category plaza = .error fault) :
    isSkipped fault = true ∨ fault = .overflow ∧ HugeFee category plaza := by
  rw [Tally.assess, bind_eq_error] at failed
  rcases failed with unmeasured | ⟨found, -, failed⟩
  · obtain rfl := onRoute?_eq_error unmeasured
    exact .inl rfl
  · rcases found with - | ⟨place, distance⟩
    · cases failed
    · cases identified : isIdentity plaza.identity with
      | false =>
          obtain rfl : Fault.wrongKind = fault := by
            simpa [identified, throw, throwThe, MonadExceptOf.throw] using failed
          exact .inl rfl
      | true =>
          simp only [identified, Bool.not_true, Bool.false_eq_true, if_false] at failed
          split at failed
          · cases failed
          · exact .inr (addNew_eq_error_iff.mp failed)

/-- A plaza that is passed over can be left out of the data set. -/
theorem bill_of_isSkipped {front back : List Plaza} {plaza : Plaza} {tally : Tally}
    (before : front.foldlM (Tally.visit route threshold category) .start = .ok tally)
    (failed : tally.assess route threshold category plaza = .error fault)
    (skipped : isSkipped fault = true) :
    bill route threshold category (front ++ plaza :: back) =
      bill route threshold category (front ++ back) := by
  have passedOver : tally.visit route threshold category plaza = .ok tally := by
    rw [visit_eq_recoverWhen, failed, recoverWhen, if_pos skipped]
  simp only [bill, List.foldlM_append, List.foldlM_cons, before, passedOver, ok_bind]

/-- A journey has no bill exactly if a plaza that would be charged, on the route and the first with
its identity, has a toll that no float can hold.  Any other plaza that cannot be assessed at its
turn can be left out of the data set: the bill is the same, and so is the fault if there is no
bill. -/
theorem bill_isolates (route : List Point) (threshold : Float) (category : String)
    (plazas : List Plaza) :
    (∀ fault, bill route threshold category plazas = .error fault ↔
      fault = .overflow ∧ ∃ first ∈ firsts sameIdentity (passing route threshold plazas),
        HugeFee category first.plaza) ∧
      ∀ front plaza back tally fault, plazas = front ++ plaza :: back →
        front.foldlM (Tally.visit route threshold category) .start = .ok tally →
        tally.assess route threshold category plaza = .error fault →
        (fault = .overflow ∧ HugeFee category plaza) ∨
          bill route threshold category plazas = bill route threshold category (front ++ back) := by
  refine ⟨fun fault => bill_eq_error_iff, ?_⟩
  rintro front plaza back tally fault rfl before failed
  rcases isSkipped_of_assess failed with skipped | huge
  · exact .inr (bill_of_isSkipped before failed skipped)
  · exact .inl huge

/-- A plaza with a list for an identifier, before one that is charged, on an empty route with an
infinite range. -/
theorem bill_isolates_listed :
    let broken : Plaza := ⟨.list [.text "B-1"], "Broken", some ⟨77, 29⟩, [], [("car", .float 55)]⟩
    let good : Plaza := ⟨.text "G-1", "Good", some ⟨77, 29⟩, [], [("car", .float 55)]⟩
    Tally.start.assess [] Decimal.infinity "car" broken = .error .wrongKind ∧
      bill [] Decimal.infinity "car" [broken, good] = bill [] Decimal.infinity "car" [good] := by
  intro broken good
  have onRoute : onRoute? [] Decimal.infinity broken =
      .ok (some (⟨77, 29⟩, Float.ofBits 0x7FF0000000000000)) := by
    have near : ¬ Decimal.infinity < Float.ofBits 0x7FF0000000000000 := by decide +kernel
    exact congrArg Except.ok (if_neg near)
  have failed : Tally.start.assess [] Decimal.infinity "car" broken = .error .wrongKind := by
    rw [Tally.assess, onRoute]
    rfl
  rcases (bill_isolates [] Decimal.infinity "car" [broken, good]).2 [] broken [good] _ _ rfl rfl
    failed with ⟨overflow, -⟩ | same
  · cases overflow
  · exact ⟨failed, same⟩

/-- A toll that no float can hold leaves a journey without a bill. -/
theorem not_bill_of_records :
    ¬ ∀ (route : List Point) (threshold : Float) (category : String) (records : List Fields)
        (plazas : List Plaza), records.mapM Plaza.ofRecord = .ok plazas →
      ∃ result, bill route threshold category plazas = .ok result := by
  intro all
  let record : Fields := [("lat", .float 29), ("lon", .float 77), ("car", .int (10 ^ 400))]
  let plaza : Plaza := ⟨.null, Plaza.unnamed, some ⟨77, 29⟩, [], record⟩
  have read : Plaza.ofRecord record = .ok plaza := by
    have position : Plaza.recordedPosition record = .ok (some ⟨77, 29⟩) := rfl
    have known : Plaza.isOrigin ⟨77, 29⟩ = false := by decide +kernel
    rw [Plaza.ofRecord, position, ok_bind, Option.filter_some, known]
    rfl
  have failed : bill [] Decimal.infinity "car" [plaza] = .error .overflow :=
    cause?_eq_some_iff.mp (by decide +kernel)
  obtain ⟨result, made⟩ := all [] Decimal.infinity "car" [record] [plaza]
    (by rw [List.mapM_cons, read]; rfl)
  cases failed.symm.trans made

end JourneyCost.Toll
