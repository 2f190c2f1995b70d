import JourneyCost.Proofs.Decimal.Sign
import JourneyCost.Proofs.Decimal.Written
import JourneyCost.Proofs.Text.Splitting
import JourneyCost.Proofs.Trip.Globe
import JourneyCost.Proofs.Trip.Reading

/-!
# Coordinates that are taken

A text or a list is taken as a position if it begins with two numbers, whatever follows them.  A
position on the globe is read from its own label, since neither number holds a comma or a blank and
the latitude is taken to stand first.
-/

namespace JourneyCost.Trip

open Decimal (Style mem_numeralChars_write not_mem_of_chars)

/-- A document is a text or a list. -/
inductive IsSequence : Json → Prop where
  /-- A text, whose parts stand between commas. -/
  | text (s : String) : IsSequence (.text s)
  /-- A list. -/
  | list (items : List Json) : IsSequence (.list items)

/-- The items of a list, or the parts of a text. -/
def coordinateItems : Json → List Json
  | .text s => (textParts s).map .text
  | .list items => items
  | _ => []

/-- A text or list begins with two numbers that make up a position, and goes on with a surplus. -/
def Gives (value : Json) (p : Point) (surplus : List Json) : Prop :=
  ∃ first second, coordinateItems value = first :: second :: surplus ∧
    first.Tells second Geo.orient p

/-- The flaw of a text or list that is refused. -/
def refusal : Json → CoordinateFlaw
  | .text s => if ',' ∈ s.toList then .notTwoNumbers else .tooFewParts
  | _ => .notTwoNumbers

section

variable {items : List Json} {raw : RawCoordinate} {flaw : CoordinateFlaw}

theorem pairPosition_list_eq_some_iff {p : Point} :
    Geo.pairPosition (.list items) = .ok (some p) ↔
      ∃ surplus, Gives (.list items) p surplus := by
  match items with
  | [] | [_] => simp [Geo.pairPosition, Json.length, pure, Except.pure, Gives, coordinateItems]
  | first :: second :: surplus =>
      rw [Geo.pairPosition_of_two, Json.recoverWhen_readPair_eq_some_iff]
      constructor
      · exact fun tells => ⟨surplus, first, second, rfl, tells⟩
      · rintro ⟨rest, a, b, same, tells⟩
        simp only [coordinateItems, List.cons.injEq] at same
        obtain ⟨rfl, rfl, rfl⟩ := same
        exact tells

theorem ofItems_eq_ok_iff : ofItems items = .ok (.ok raw) ↔
    ∃ p surplus, Gives (.list items) p surplus ∧ raw = .ofPoint p := by
  unfold ofItems
  rw [bind_eq_ok]
  constructor
  · rintro ⟨found, read, made⟩
    cases found with
    | none => cases made
    | some p =>
        obtain ⟨surplus, gives⟩ := pairPosition_list_eq_some_iff.mp read
        cases made
        exact ⟨p, surplus, gives, rfl⟩
  · rintro ⟨p, surplus, gives, rfl⟩
    exact ⟨some p, pairPosition_list_eq_some_iff.mpr ⟨surplus, gives⟩, rfl⟩

theorem flaw_of_ofItems (refused : ofItems items = .ok (.error flaw)) : flaw = .notTwoNumbers := by
  obtain ⟨found, -, made⟩ := bind_eq_ok.mp refused
  cases found <;> cases made
  rfl

end

/-- A text has one part more than it has commas. -/
theorem length_coordinateItems (s : String) :
    (coordinateItems (.text s)).length = s.toList.count ',' + 1 := by
  simp [coordinateItems, textParts, Text.split, Text.length_splitChars]

theorem readCoordinate_text (s : String) : readCoordinate (.text s) =
    if ',' ∈ s.toList then ofItems (coordinateItems (.text s)) else .ok (.error .tooFewParts) := by
  have count : (textParts s).length = s.toList.count ',' + 1 := by
    rw [← length_coordinateItems, coordinateItems, List.length_map]
  have lacking : (textParts s).length < 2 ↔ ',' ∉ s.toList := by
    rw [count, ← List.count_eq_zero]
    omega
  simp only [readCoordinate, lacking, ite_not]
  rfl

section

variable {value : Json} {raw : RawCoordinate} {flaw : CoordinateFlaw} {fault : Fault}
  (sequence : IsSequence value)

include sequence

theorem readCoordinate_eq_ok_iff : readCoordinate value = .ok (.ok raw) ↔
    ∃ p surplus, Gives value p surplus ∧ raw = .ofPoint p := by
  cases sequence with
  | list items => exact ofItems_eq_ok_iff
  | text s =>
      rw [readCoordinate_text]
      split
      · exact ofItems_eq_ok_iff
      · -- Without a comma there is one part, and nothing begins with two.
        rename_i lone
        have length := length_coordinateItems s
        rw [List.count_eq_zero.mpr lone] at length
        simp only [Except.ok.injEq, reduceCtorEq, false_iff, not_exists, not_and]
        rintro p surplus ⟨first, second, parts, -⟩
        rw [parts] at length
        simp at length

theorem flaw_of_readCoordinate (refused : readCoordinate value = .ok (.error flaw)) :
    flaw = refusal value := by
  cases sequence with
  | list items => exact flaw_of_ofItems refused
  | text s =>
      rw [readCoordinate_text] at refused
      simp only [refusal]
      split at refused
      · rename_i comma
        rw [if_pos comma, flaw_of_ofItems refused]
      · rename_i lone
        rw [if_neg lone]
        cases refused
        rfl

/-- A text or list is taken exactly if it begins with two numbers, and then its surplus plays no
part.  All others are refused with a flaw, but for a list that begins with a huge integer. -/
theorem readCoordinate_of_sequence :
    (∀ raw, readCoordinate value = .ok (.ok raw) ↔
      ∃ p surplus, Gives value p surplus ∧ raw = .ofPoint p) ∧
    (∀ flaw, readCoordinate value = .ok (.error flaw) ↔
      (∀ p surplus, ¬ Gives value p surplus) ∧ ¬ HugeCoordinate value ∧ flaw = refusal value) ∧
    ∀ fault, readCoordinate value = .error fault ↔ fault = .overflow ∧ HugeCoordinate value := by
  have taken := fun raw => @readCoordinate_eq_ok_iff value raw sequence
  have failed := fun fault => @readCoordinate_eq_error_iff fault value
  refine ⟨taken, fun flaw => ⟨fun refused => ⟨fun p surplus gives => ?_, fun huge => ?_,
    flaw_of_readCoordinate sequence refused⟩, fun ⟨lacking, small, same⟩ => ?_⟩, failed⟩
  · rw [(taken (.ofPoint p)).mpr ⟨p, surplus, gives, rfl⟩] at refused
    cases refused
  · rw [(failed .overflow).mpr ⟨rfl, huge⟩] at refused
    cases refused
  · -- What is neither taken nor huge is refused, and the flaw is settled by the shape of the value.
    cases read : readCoordinate value with
    | error fault => exact absurd ((failed fault).mp read).2 small
    | ok result =>
        cases result with
        | error other => rw [same, flaw_of_readCoordinate sequence read]
        | ok raw =>
            obtain ⟨p, surplus, gives, -⟩ := (taken raw).mp read
            exact absurd gives (lacking p surplus)

end

theorem gives_of_surplus :
    Gives (.text "28.6, 77.2, 99") ⟨77.2, 28.6⟩ [.text "99"] :=
  ⟨.text "28.6", .text "77.2", rfl, 28.6, 77.2, rfl, rfl, rfl⟩

/-- A text with a third number is taken, and this number is lost. -/
theorem readCoordinate_of_sequence_surplus :
    IsSequence (.text "28.6, 77.2, 99") ∧
      readCoordinate (.text "28.6, 77.2, 99") = .ok (.ok (.ofPoint ⟨77.2, 28.6⟩)) :=
  ⟨.text _, ((readCoordinate_of_sequence (.text _)).1 _).mpr ⟨_, _, gives_of_surplus, rfl⟩⟩

/-- It is not so that a text or list is taken only if it has two items. -/
theorem not_readCoordinate_of_pair : ¬ ∀ value, IsSequence value → ∀ raw,
    (readCoordinate value = .ok (.ok raw) ↔ ∃ p, Gives value p [] ∧ raw = .ofPoint p) := by
  intro pairs
  have taken := (readCoordinate_eq_ok_iff (.text _)).mpr ⟨_, _, gives_of_surplus, rfl⟩
  obtain ⟨p, ⟨first, second, same, -⟩, -⟩ := (pairs _ (.text _) _).mp taken
  cases same

theorem trim_write {x : Float} (finite : x.isFinite = true) :
    Text.trim (Style.plain.write x) = Style.plain.write x := by
  have bare : ∀ c ∈ (Style.plain.write x).toList, Text.isSpacing c = false := fun c member =>
    Decimal.isSpacing_of_mem c (mem_numeralChars_write finite c member)
  rw [Text.trim, Decimal.trimmed_eq_self bare, String.ofList_toList]

theorem toNumber_write {x : Float} (finite : x.isFinite = true) :
    (Json.text (Style.plain.write x)).toNumber = .ok x := by
  rw [Json.toNumber, Decimal.readFloat?_write finite]
  rfl

variable {p : Point}

/-- A label falls into two numbers. -/
theorem textParts_label (north : p.latitude.isFinite = true) (east : p.longitude.isFinite = true) :
    textParts (label p) = [Style.plain.write p.latitude, Style.plain.write p.longitude] := by
  have text : (label p).toList =
      (Style.plain.write p.latitude).toList ++ ',' :: (Style.plain.write p.longitude).toList := by
    simp [label, String.toList_append]
  have before : ',' ∉ (Style.plain.write p.latitude).toList :=
    not_mem_of_chars (mem_numeralChars_write north) (by decide)
  have after : ',' ∉ (Style.plain.write p.longitude).toList :=
    not_mem_of_chars (mem_numeralChars_write east) (by decide)
  rw [textParts, Text.split, text, Text.splitChars_append before, Text.splitChars_of_not_mem after]
  simp [trim_write north, trim_write east]

theorem fitsLatLon_of_onGlobe (onGlobe : OnGlobe p) :
    Geo.fitsLatLon p.latitude p.longitude = true := by
  obtain ⟨⟨-, north⟩, -, east⟩ := onGlobe
  have latitude : p.latitude.abs ≤ 90 := Decimal.abs_le_iff.mpr north
  have longitude : p.longitude.abs ≤ 180 := Decimal.abs_le_iff.mpr east
  simp [Geo.fitsLatLon, latitude, longitude]

theorem orient_of_onGlobe (onGlobe : OnGlobe p) : Geo.orient p.latitude p.longitude = p := by
  rw [Geo.orient, fitsLatLon_of_onGlobe onGlobe, if_pos rfl]

theorem gives_label (onGlobe : OnGlobe p) : Gives (.text (label p)) p [] := by
  have north := onGlobe.latitude.1
  have east := onGlobe.longitude.1
  refine ⟨_, _, ?_, p.latitude, p.longitude, toNumber_write north, toNumber_write east,
    orient_of_onGlobe onGlobe⟩
  rw [coordinateItems, textParts_label north east]
  rfl

/-- A position on the globe is read from its label, also where its coordinates would fit the other
way round. -/
theorem readCoordinate_label (onGlobe : OnGlobe p) :
    readCoordinate (.text (label p)) = .ok (.ok ⟨.float p.latitude, .float p.longitude⟩) :=
  (readCoordinate_eq_ok_iff (.text _)).mpr ⟨p, [], gives_label onGlobe, rfl⟩

/-- The latitude and the longitude of this position could change places. -/
theorem readCoordinate_label_near_zero :
    OnGlobe ⟨1e-7, -0.0⟩ ∧ label ⟨1e-7, -0.0⟩ = "-0.0,1e-07" ∧
      readCoordinate (.text (label ⟨1e-7, -0.0⟩)) = .ok (.ok ⟨.float (-0.0), .float 1e-7⟩) := by
  have onGlobe : OnGlobe ⟨1e-7, -0.0⟩ :=
    ⟨by decide +kernel, by decide +kernel⟩
  exact ⟨onGlobe, by decide +kernel, readCoordinate_label onGlobe⟩

end JourneyCost.Trip
