import JourneyCost.Proofs.Json.Standard
import JourneyCost.Proofs.Trip.Reading

/-!
# What flaws repeat

A flaw repeats the document in which it was found: the value of a field, the whole payload if a
field is missing or the rule about the ends is broken, or one coordinate of a position.  So flaws
bring into an answer only numbers that the payload holds or that a position was read as.
-/

namespace JourneyCost.Trip

namespace Checked

variable {α β : Type} {holds : Json → Prop} {flaw : Flaw}

theorem mem_flaws_seq {f : Checked (α → β)} {checked : Checked α} :
    flaw ∈ (f <*> checked).flaws ↔ flaw ∈ f.flaws ∨ flaw ∈ checked.flaws := by
  cases f with
  | fine g =>
      cases checked with
      | fine value => exact iff_of_false List.not_mem_nil (by simp [flaws])
      | flawed list => exact (or_iff_right List.not_mem_nil).symm
  | flawed list => exact List.mem_append

theorem mem_flaws_andThen {checked : Checked α} {check : α → Checked β}
    (member : flaw ∈ checked.flaws) : flaw ∈ (checked.andThen check).flaws := by
  cases checked with
  | fine value => cases member
  | flawed list => exact member

theorem exists_flawed {checked : Checked α} (member : flaw ∈ checked.flaws) :
    ∃ list, checked = .flawed list ∧ flaw ∈ list := by
  cases checked with
  | fine value => cases member
  | flawed list => exact ⟨list, rfl, member⟩

/-- Something is true of all that the flaws repeat. -/
def Echoes (holds : Json → Prop) (checked : Checked α) : Prop :=
  ∀ flaw ∈ checked.flaws, holds flaw.input

theorem echoes_fine (value : α) : (fine value).Echoes holds :=
  List.forall_mem_nil _

theorem echoes_reject {defect : Defect} {place : List String} {input : Json}
    (held : holds input) : (reject defect place input : Checked α).Echoes holds :=
  List.forall_mem_singleton.mpr held

theorem Echoes.map {checked : Checked α} (echoes : checked.Echoes holds) (f : α → β) :
    (f <$> checked).Echoes holds := by
  cases checked with
  | fine value => exact echoes_fine (f value)
  | flawed flaws => exact echoes

theorem Echoes.seq {f : Checked (α → β)} {checked : Checked α} (first : f.Echoes holds)
    (second : checked.Echoes holds) : (f <*> checked).Echoes holds :=
  fun flaw member => (mem_flaws_seq.mp member).elim (first flaw) (second flaw)

theorem Echoes.andThen {checked : Checked α} {check : α → Checked β}
    (first : checked.Echoes holds) (second : ∀ value, (check value).Echoes holds) :
    (checked.andThen check).Echoes holds := by
  cases checked with
  | fine value => exact second value
  | flawed flaws => exact first

/-- What a further condition refuses is repeated. -/
theorem Echoes.andThen_ite {checked : Checked α} {accepts : α → Prop} [DecidablePred accepts]
    {defect : Defect} {place : List String} {input : Json} (first : checked.Echoes holds)
    (held : holds input) :
    (checked.andThen fun a =>
      if accepts a then .fine a else reject defect place input).Echoes holds := by
  refine first.andThen fun a => ?_
  split
  · exact echoes_fine a
  · exact echoes_reject held

end Checked

open Checked

variable {α : Type} {holds : Json → Prop}

/-- A check repeats nothing but the document that it is given. -/
def Repeats (check : Check α) : Prop :=
  ∀ (holds : Json → Prop) (place : List String) (input : Json), holds input →
    (check place input).Echoes holds

theorem repeats_checkText (least greatest : Nat) : Repeats (checkText least greatest) := by
  intro holds place input held
  unfold checkText
  split
  · dsimp only
    split
    · exact echoes_reject held
    · split
      · exact echoes_reject held
      · exact echoes_fine _
  · exact echoes_reject held

theorem repeats_checkNumber : Repeats checkNumber := by
  intro holds place input held
  unfold checkNumber
  split
  · rename_i s
    cases Decimal.readField? s with
    | none => exact echoes_reject held
    | some x => exact echoes_fine x
  · split
    · exact echoes_fine _
    · exact echoes_reject held

theorem repeats_checkFinite : Repeats checkFinite := fun holds place input held =>
  (repeats_checkNumber holds place input held).andThen_ite held

theorem repeats_checkAmount : Repeats checkAmount := fun holds place input held =>
  (repeats_checkFinite holds place input held).andThen_ite held

theorem repeats_checkPositive : Repeats checkPositive := fun holds place input held =>
  (repeats_checkFinite holds place input held).andThen_ite held

theorem repeats_checkDegrees (bound : Nat) : Repeats (checkDegrees bound) := by
  refine fun holds place input held => (repeats_checkNumber holds place input held).andThen ?_
  intro x
  split
  · exact echoes_reject held
  · split
    · exact echoes_reject held
    · exact echoes_fine x

theorem Repeats.checkOptional {check : Check α} (repeats : Repeats check) :
    Repeats (checkOptional check) := by
  intro holds place input held
  unfold Trip.checkOptional
  split
  · exact echoes_fine none
  · exact (repeats holds place input held).map some

section

variable {fields : Fields} {check : Check α} (standard : (Json.object fields).IsStandard)
  (repeats : Repeats check) (key : String)

include standard repeats

theorem echoes_required : (required check key fields).Echoes Json.IsStandard := by
  unfold required
  split
  · rename_i value found
    exact repeats _ _ _ (Json.isStandard_of_find? standard found)
  · exact echoes_reject standard

theorem echoes_defaulted (value : α) :
    (defaulted check value key fields).Echoes Json.IsStandard := by
  unfold defaulted
  split
  · rename_i input found
    exact repeats _ _ _ (Json.isStandard_of_find? standard found)
  · exact echoes_fine value

theorem echoes_optional : (optional check key fields).Echoes Json.IsStandard :=
  echoes_defaulted standard repeats.checkOptional key none

end

/-- The coordinates that a document is read as, if it is read as some, are finite numbers or no
numbers at all. -/
def ReadsStandard (value : Json) : Prop :=
  ∀ raw, readCoordinate value = .ok (.ok raw) →
    raw.latitude.IsStandard ∧ raw.longitude.IsStandard

theorem echoes_coordinateField {fields : Fields} {key : String} {checked : Checked (Option Point)}
    (standard : (Json.object fields).IsStandard) (reads : ReadsStandard (fields.get key))
    (read : coordinateField key fields = .ok checked) : checked.Echoes Json.IsStandard := by
  unfold coordinateField at read
  split at read
  · obtain rfl := Except.ok.inj read
    exact echoes_fine none
  · obtain ⟨found, coordinates, made⟩ := bind_eq_ok.mp read
    obtain rfl := Except.ok.inj made
    refine Echoes.map ?_ some
    cases found with
    | error flaw => exact echoes_reject (Json.isStandard_get standard key)
    | ok raw =>
        obtain ⟨latitude, longitude⟩ := reads raw coordinates
        exact ((repeats_checkDegrees 90 _ _ _ latitude).map _).seq
          (repeats_checkDegrees 180 _ _ _ longitude)

theorem echoes_ofFields {fields : Fields} {startCoord destCoord : Checked (Option Point)}
    (standard : (Json.object fields).IsStandard) (start : startCoord.Echoes Json.IsStandard)
    (dest : destCoord.Echoes Json.IsStandard) :
    (Request.ofFields fields startCoord destCoord).Echoes Json.IsStandard := by
  have text (least greatest : Nat) := repeats_checkText least greatest
  have finite := repeats_checkFinite
  have amount := repeats_checkAmount
  unfold Request.ofFields
  iterate 6 refine Echoes.seq ?_ (echoes_defaulted standard amount _ _)
  refine Echoes.seq ?_ (echoes_required standard finite _)
  iterate 4 refine Echoes.seq ?_ (echoes_optional standard finite _)
  refine Echoes.seq ?_ (echoes_optional standard repeats_checkPositive _)
  refine Echoes.seq ?_ (echoes_defaulted standard (text 1 30) _ _)
  refine Echoes.seq ?_ (echoes_required standard finite _)
  refine Echoes.seq ?_ (echoes_required standard (text 1 50) _)
  refine Echoes.seq (Echoes.seq ?_ start) dest
  exact ((echoes_optional standard (text 1 300) _).map _).seq
    (echoes_optional standard (text 1 300) _)

/-- The flaws of a payload without numbers that are not finite repeat no such number, unless a
position was read as one. -/
theorem echoes_read {fields : Fields} {checked : Checked Request}
    (standard : (Json.object fields).IsStandard)
    (positions : ∀ key ∈ coordinateKeys, ReadsStandard (fields.get key))
    (read : Request.read (.object fields) = .ok checked) : checked.Echoes Json.IsStandard := by
  obtain ⟨start, readStart, read⟩ := bind_eq_ok.mp read
  obtain ⟨dest, readDest, made⟩ := bind_eq_ok.mp read
  obtain rfl := Except.ok.inj made
  refine Echoes.andThen (echoes_ofFields standard
    (echoes_coordinateField standard (positions _ (by simp [coordinateKeys])) readStart)
    (echoes_coordinateField standard (positions _ (by simp [coordinateKeys])) readDest)) ?_
  intro request
  split
  · exact echoes_reject standard
  · exact echoes_fine request

/-- What is wrong with a mileage is listed, whatever else is wrong. -/
theorem exists_flawed_of_mileage {fields : Fields} {checked : Checked Request} {value : Json}
    {flaw : Flaw} (given : fields.find? "mileage" = some value)
    (wrong : flaw ∈ (checkFinite ["mileage"] value).flaws)
    (read : Request.read (.object fields) = .ok checked) :
    ∃ flaws, checked = .flawed flaws ∧ flaw ∈ flaws := by
  obtain ⟨start, -, read⟩ := bind_eq_ok.mp read
  obtain ⟨dest, -, made⟩ := bind_eq_ok.mp read
  obtain rfl := Except.ok.inj made
  refine exists_flawed (mem_flaws_andThen ?_)
  have listed : flaw ∈ (required checkFinite "mileage" fields).flaws := by
    rwa [required, given]
  simp only [Request.ofFields, mem_flaws_seq, listed, or_true, true_or]

/-- A mileage that is not finite is repeated. -/
theorem mem_flaws_checkFinite {x : Float} (broken : x.isFinite = false) (place : List String) :
    ⟨.notFinite, place, .float x⟩ ∈ (checkFinite place (.float x)).flaws := by
  have checked : checkFinite place (.float x) = reject .notFinite place (.float x) := by
    simp [checkFinite, checkNumber, Json.toNumber, Checked.andThen, broken]
  rw [checked]
  exact List.mem_singleton_self _

end JourneyCost.Trip
