import JourneyCost.Map.Provider
import JourneyCost.Proofs.Json.Nesting
import JourneyCost.Proofs.Json.Refusal
import JourneyCost.Proofs.Route.Geometry

/-!
# Texts that are directions

A text that is no object is refused with a fault of its own.  An object gives a route, unless the
list of routes is something else, or a figure or a source of geometry breaks off the reading.
-/

namespace JourneyCost.Route

open Source (IsTried)
open Polyline (AreUsable)

/-- The first route of a document is an object. -/
def FirstRoute (payload route : Fields) : Prop :=
  ∃ rest, payload.get "routes" = .list (.object route :: rest)

/-- The parts that the length and the duration of a route are read from. -/
def measured (route : Fields) : List Fields :=
  match route.get "summary" with
  | .object summary => [summary]
  | _ => legs route

/-- A figure of a part is a number that no float can hold. -/
def HugeFigure (part : Fields) : Prop :=
  (part.get "distance").IsHuge ∨ (part.get "duration").IsHuge

/-- What a document breaks off the reading with. -/
inductive Breaks (payload : Fields) : Fault → Prop
  /-- The routes are members of an object. -/
  | keyed {fields : Fields} :
      payload.get "routes" = .object fields → fields ≠ [] → Breaks payload .missingMember
  /-- A number or a truth value is in place of the routes. -/
  | noList {routes : Json} :
      payload.get "routes" = routes → routes.isTruthy = true →
      routes.item 0 = .error .wrongKind → Breaks payload .wrongKind
  /-- A figure of the first route is too large. -/
  | figure {route part : Fields} :
      FirstRoute payload route → part ∈ measured route → HugeFigure part →
      Breaks payload .overflow
  /-- A source of geometry breaks off, and those before it are void. -/
  | geometry {route : Fields} {source : Source} {fault : Fault} :
      FirstRoute payload route → (∀ part ∈ measured route, ¬ HugeFigure part) →
      IsTried route Source.order source → Source.Breaks route source fault →
      Breaks payload fault

/-- The points of a route: those of the first source that has any. -/
def Draws (route : Fields) (precisions : List Int) (points : List Point) : Prop :=
  (∃ source, IsTried route Source.order source ∧ source.HasPoints route ∧
    source.read route precisions = .ok points) ∨
  (∀ source ∈ Source.order, source.IsVoid route) ∧ points = []

variable {payload route : Fields} {precisions : List Int} {fault : Fault} {found : Route}

theorem quantity_of_ne_null {value : Json} (given : value ≠ .null) :
    quantity value = recoverWhen Fault.isUnreadable 0 value.toNumber := by
  cases value with
  | null => exact absurd rfl given
  | bool | int | float | text | list | object => rfl

theorem quantity_eq_error_iff {value : Json} :
    quantity value = .error fault ↔ fault = .overflow ∧ value.IsHuge := by
  by_cases given : value = .null
  · simp [given, quantity, Json.IsHuge]
  · rw [quantity_of_ne_null given]
    exact Json.recoverWhen_toNumber_eq_error_iff

/-- Two figures, one read after the other. -/
theorem figures_eq_error_iff {α : Type} {part : Fields} {make : Float → Float → α} :
    (do let metres ← quantity (part.get "distance")
        let seconds ← quantity (part.get "duration")
        return make metres seconds) = .error fault ↔ fault = .overflow ∧ HugeFigure part := by
  refine bind_eq_error_iff_or (fun cause => quantity_eq_error_iff) fun metres _ => ?_
  simp only [bind_eq_error, quantity_eq_error_iff, pure, Except.pure, reduceCtorEq, and_false,
    exists_false, or_false]

theorem totals_eq_error_iff :
    totals route = .error fault ↔ fault = .overflow ∧ ∃ part ∈ measured route, HugeFigure part := by
  cases summary : route.get "summary" with
  | object own =>
      simp only [totals, measured, summary, List.mem_singleton, exists_eq_left]
      exact figures_eq_error_iff
  | null | bool | int | float | text | list =>
      simp only [totals, measured, summary]
      apply foldlM_eq_error_iff_exists
      exact fun state leg cause => figures_eq_error_iff

theorem ofFields_eq_error_iff (usual : AreUsable precisions) :
    ofFields route precisions = .error fault ↔
      (fault = .overflow ∧ ∃ part ∈ measured route, HugeFigure part) ∨
      (∀ part ∈ measured route, ¬ HugeFigure part) ∧
        ∃ source, IsTried route Source.order source ∧ Source.Breaks route source fault := by
  have geometry : firstGeometry route precisions sources = .error fault ↔ ∃ source,
      IsTried route Source.order source ∧ Source.Breaks route source fault := by
    rw [Source.sources_eq]
    exact firstGeometry_eq_error_iff usual
  have measurable : (∃ figures, totals route = .ok figures) ↔
      ∀ part ∈ measured route, ¬ HugeFigure part := by
    cases given : totals route with
    | error cause =>
        obtain ⟨-, part, member, huge⟩ := totals_eq_error_iff.mp given
        simp only [reduceCtorEq, exists_false, false_iff, not_forall, not_not]
        exact ⟨part, member, huge⟩
    | ok figures =>
        refine iff_of_true ⟨figures, rfl⟩ fun part member huge => ?_
        rw [totals_eq_error_iff.mpr ⟨rfl, part, member, huge⟩] at given
        cases given
  rw [ofFields, bind_eq_error, totals_eq_error_iff, ← measurable, ← geometry]
  refine or_congr_right ?_
  rw [← exists_and_right]
  refine exists_congr fun figures => and_congr_right fun _ => ?_
  simp only [bind_eq_error, pure, Except.pure, reduceCtorEq, and_false, exists_false, or_false]

theorem draws_of_ofFields (usual : AreUsable precisions)
    (described : ofFields route precisions = .ok found) :
    Draws route precisions found.points := by
  simp only [ofFields, bind_eq_ok] at described
  obtain ⟨figures, -, points, drawn, returned⟩ := described
  obtain rfl := Except.ok.inj returned
  exact firstGeometry_eq_ok usual drawn

theorem ofPayload_of_firstRoute (first : FirstRoute payload route) :
    ofPayload payload precisions = ofFields route precisions := by
  obtain ⟨rest, listed⟩ := first
  simp [ofPayload, listed, Json.isTruthy, Json.item]

theorem FirstRoute.unique {other : Fields} (first : FirstRoute payload route)
    (again : FirstRoute payload other) : route = other := by
  obtain ⟨rest, listed⟩ := first
  obtain ⟨rest', listed'⟩ := again
  rw [listed] at listed'
  simp only [Json.list.injEq, List.cons.injEq, Json.object.injEq] at listed'
  exact listed'.1

theorem firstRoute_of_item (found : (payload.get "routes").item 0 = .ok (.object route)) :
    FirstRoute payload route := by
  cases routes : payload.get "routes" with
  | list items =>
      cases items with
      | nil => simp [routes, Json.item] at found
      | cons first rest =>
          obtain rfl : first = .object route := by simpa [routes, Json.item] using found
          exact ⟨rest, routes⟩
  | text s =>
      rw [routes, Json.item] at found
      cases character : s.toList[0]? <;> simp [character] at found
  | null | bool | int | float | object => simp [routes, Json.item] at found

/-- Without a first route, there is none, or there is no first item at all. -/
theorem ofPayload_of_no_route (noRoute : ∀ route, ¬ FirstRoute payload route) :
    ofPayload payload precisions =
      if (payload.get "routes").isTruthy then (payload.get "routes").item 0 >>= fun _ => .ok empty
      else .ok empty := by
  unfold ofPayload
  simp only
  cases offered : (payload.get "routes").isTruthy with
  | false => rfl
  | true =>
      simp only [Bool.not_true, Bool.false_eq_true, if_false, if_true]
      cases found : (payload.get "routes").item 0 with
      | error cause => rfl
      | ok first =>
          cases first with
          | object route => exact absurd (firstRoute_of_item found) (noRoute route)
          | null | bool | int | float | text | list => rfl

theorem item_ne_missingItem {value : Json} (truthy : value.isTruthy = true) :
    value.item 0 ≠ .error .missingItem := by
  cases value with
  | list items => cases items <;> simp_all [Json.isTruthy, Json.item]
  | text s =>
      have filled : s.toList ≠ [] := by simpa [Json.isTruthy] using truthy
      obtain ⟨c, rest, characters⟩ := List.exists_cons_of_ne_nil filled
      simp [Json.item, characters]
  | null | bool | int | float | object => simp [Json.item]

theorem ofPayload_eq_error_iff (usual : AreUsable precisions) :
    ofPayload payload precisions = .error fault ↔ Breaks payload fault := by
  by_cases first : ∃ route, FirstRoute payload route
  · obtain ⟨route, first⟩ := first
    obtain ⟨rest, listed⟩ := id first
    rw [ofPayload_of_firstRoute first, ofFields_eq_error_iff usual]
    constructor
    · rintro (⟨rfl, part, member, huge⟩ | ⟨fit, source, tried, breaks⟩)
      · exact .figure first member huge
      · exact .geometry first fit tried breaks
    · intro breaks
      cases breaks with
      | keyed routes filled => simp [listed] at routes
      | noList routes truthy unlisted => simp [← routes, listed, Json.item] at unlisted
      | figure again member huge =>
          obtain rfl := first.unique again
          exact .inl ⟨rfl, _, member, huge⟩
      | geometry again fit tried breaks =>
          obtain rfl := first.unique again
          exact .inr ⟨fit, _, tried, breaks⟩
  · rw [not_exists] at first
    rw [ofPayload_of_no_route first]
    constructor
    · intro failed
      split at failed
      · rename_i truthy
        rw [bind_eq_error] at failed
        rcases failed with unlisted | ⟨value, -, returned⟩
        · rcases Json.item_eq_error unlisted with ⟨rfl, fields, routes⟩ | rfl | rfl
          · refine .keyed routes fun none => ?_
            simp [routes, none, Json.isTruthy] at truthy
          · exact absurd unlisted (item_ne_missingItem truthy)
          · exact .noList rfl truthy unlisted
        · simp at returned
      · simp at failed
    · intro breaks
      cases breaks with
      | keyed routes filled => simp [routes, Json.isTruthy, filled, Json.item]
      | noList routes truthy unlisted =>
          obtain rfl := routes
          rw [if_pos truthy, unlisted, error_bind]
      | figure again => exact absurd again (first _)
      | geometry again => exact absurd again (first _)

theorem ofPayload_eq_ok (usual : AreUsable precisions)
    (given : ofPayload payload precisions = .ok found) :
    (found = empty ∧ ∀ route, ¬ FirstRoute payload route) ∨
      ∃ route, FirstRoute payload route ∧ Draws route precisions found.points := by
  by_cases first : ∃ route, FirstRoute payload route
  · obtain ⟨route, first⟩ := first
    rw [ofPayload_of_firstRoute first] at given
    exact .inr ⟨route, first, draws_of_ofFields usual given⟩
  · rw [not_exists] at first
    rw [ofPayload_of_no_route first] at given
    refine .inl ⟨?_, first⟩
    split at given
    · obtain ⟨value, -, returned⟩ := bind_eq_ok.mp given
      exact (Except.ok.inj returned).symm
    · exact (Except.ok.inj given).symm

theorem areUsable_precisions (provider : Map.Provider) : AreUsable provider.precisions := by
  have five : Polyline.IsUsable 5 := ⟨by decide, by decide⟩
  have six : Polyline.IsUsable 6 := ⟨by decide, by decide⟩
  cases provider with
  | ola => exact ⟨by simp [Map.Provider.precisions], by simp [Map.Provider.precisions, five, six]⟩
  | ors => exact ⟨by simp [Map.Provider.precisions], by simp [Map.Provider.precisions, five, six]⟩

theorem not_breaks_parseFault {message : String} : ¬ Breaks payload (parseFault message) := by
  intro breaks
  generalize same : parseFault message = fault at breaks
  cases breaks with
  | keyed => cases same
  | noList => cases same
  | figure => cases same
  | geometry first fit tried breaks =>
      cases breaks with
      | encoded => cases same
      | hugeVertex => cases same
      | objectVertex => cases same
      | overview => cases same
      | legs => cases same

theorem ofText_of_read {text : String} (read : Json.read text = .ok (.object payload)) :
    ofText text precisions = ofPayload payload precisions := by
  simp only [ofText, read]

theorem ofText_of_no_object {text : String}
    (noObject : ∀ payload, Json.read text ≠ .ok (.object payload)) :
    ∃ message, ofText text precisions = .error (parseFault message) := by
  unfold ofText
  cases read : Json.read text with
  | ok value =>
      cases value with
      | object payload => exact absurd read (noObject payload)
      | null | bool | int | float | text | list => exact ⟨_, rfl⟩
  | error cause =>
      have malformed := (Json.isRefusal_of_read read).isMalformed
      simp only [malformed, if_true]
      exact ⟨_, rfl⟩

/-- A shallow text is refused as directions when it is no object.  An object gives a route, whose
points are those of the first source that has any, unless something in the object breaks off the
reading. -/
theorem ofText_eq_error_iff (provider : Map.Provider) (text : String)
    (shallow : Json.IsShallow (Json.tokens text.toList)) :
    Json.FitsIn Json.nestingLimit (Json.tokens text.toList) ∧
    ((∃ message, ofText text provider.precisions = .error (parseFault message)) ↔
      ∀ payload, Json.read text ≠ .ok (.object payload)) ∧
    ∀ payload, Json.read text = .ok (.object payload) →
      (∀ fault, ofText text provider.precisions = .error fault ↔ Breaks payload fault) ∧
      ∀ found, ofText text provider.precisions = .ok found →
        (found = empty ∧ ∀ route, ¬ FirstRoute payload route) ∨
          ∃ route, FirstRoute payload route ∧
            Draws route provider.precisions found.points := by
  have usual := areUsable_precisions provider
  refine ⟨Json.fitsIn_of_isShallow shallow, ⟨?_, ofText_of_no_object⟩, ?_⟩
  · rintro ⟨message, refused⟩ payload read
    rw [ofText_of_read read, ofPayload_eq_error_iff usual] at refused
    exact not_breaks_parseFault refused
  · intro payload read
    rw [ofText_of_read read]
    exact ⟨fun fault => ofPayload_eq_error_iff usual, fun found => ofPayload_eq_ok usual⟩

/-- A list of coordinates with a pair of one number is passed over for the overview. -/
theorem ofText_eq_error_iff_overview :
    let text := "\x7b\"routes\":[\x7b\"geometry\":[[77.5]]," ++
      "\"overview_polyline\":\"_p~iF~ps|U\"\x7d]\x7d"
    Json.IsShallow (Json.tokens text.toList) ∧
      ∃ payload found, Json.read text = .ok (.object payload) ∧
        ofText text (Map.Provider.precisions .ors) = .ok found ∧
        found.points = [⟨-120.2, 38.5⟩] ∧
        ∃ route, FirstRoute payload route ∧
          Draws route (Map.Provider.precisions .ors) found.points := by
  intro text
  have drawn : (ofText text (Map.Provider.precisions .ors)).toOption.map points =
      some [⟨-120.2, 38.5⟩] := by decide +kernel
  have shallow : Json.IsShallow (Json.tokens text.toList) := by decide +kernel
  obtain ⟨-, refused, read⟩ := ofText_eq_error_iff .ors text shallow
  cases given : ofText text (Map.Provider.precisions .ors) with
  | error fault => simp [given, Except.toOption] at drawn
  | ok found =>
      have isPoint : found.points = [⟨-120.2, 38.5⟩] := by
        simpa [given, Except.toOption] using drawn
      have isObject : ∃ payload, Json.read text = .ok (.object payload) := by
        by_contra noObject
        obtain ⟨message, failed⟩ := refused.mpr (not_exists.mp noObject)
        rw [given] at failed
        cases failed
      obtain ⟨payload, parsed⟩ := isObject
      refine ⟨shallow, payload, found, parsed, rfl, isPoint, ?_⟩
      rcases (read payload parsed).2 found given with ⟨isEmpty, -⟩ | draws
      · rw [isEmpty] at isPoint
        cases isPoint
      · exact draws

/-- A number in place of the routes is neither read as a route nor refused. -/
theorem not_ofText_total :
    ¬ ∀ text, (∃ found, ofText text (Map.Provider.precisions .ola) = .ok found) ∨
      ∃ message, ofText text (Map.Provider.precisions .ola) = .error (parseFault message) := by
  intro total
  have wrongKind : (ofText "\x7b\"routes\": 5\x7d" (Map.Provider.precisions .ola)).map
      (fun _ => ()) = .error .wrongKind := by decide +kernel
  rcases total "\x7b\"routes\": 5\x7d" with ⟨found, given⟩ | ⟨message, refused⟩
  · rw [given] at wrongKind
    cases wrongKind
  · rw [refused] at wrongKind
    cases wrongKind

end JourneyCost.Route
