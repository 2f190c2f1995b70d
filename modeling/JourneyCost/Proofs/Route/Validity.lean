import JourneyCost.Proofs.Decimal.Sign
import JourneyCost.Proofs.Route.Parsing
import JourneyCost.Proofs.Route.Resolution

/-!
# Routes that are handed on

A route that was found has points and was read from the body of one answer.  Its length and its
duration are what that answer says they are: neither is below zero, unless the answer has a figure
that is below zero or not a number.
-/

namespace JourneyCost.Route

open Net Map

variable {client : Client} {reply : Reply} {answer : Directions}

theorem reply_of_directionsIn (read : client.directionsIn reply = .ok answer) :
    ∃ body, reply = .answer answer.status body ∧ answer.text = Text.ofBytesLossy body := by
  obtain ⟨⟨status, body⟩, contents, made⟩ := bind_eq_ok.mp read
  obtain rfl := Except.ok.inj made
  cases reply with
  | answer status' body' =>
      obtain ⟨rfl, rfl⟩ := Prod.mk.inj (Except.ok.inj contents)
      exact ⟨_, rfl, rfl⟩
  | dropped | badAddress => cases contents

/-- Directions that are handed on were given with the status of success. -/
theorem reply_of_isOk {refuse : Directions → Fault}
    (given : (client.directionsIn reply >>= fun found =>
      if found.isOk then .ok found else .error (refuse found)) = .ok answer) :
    ∃ body, reply = .answer 200 body ∧ answer.text = Text.ofBytesLossy body := by
  obtain ⟨found, read, checked⟩ := bind_eq_ok.mp given
  split at checked
  · rename_i success
    obtain rfl := Except.ok.inj checked
    obtain ⟨body, same, text⟩ := reply_of_directionsIn read
    have status : found.status = 200 := beq_iff_eq.mp success
    exact ⟨body, status ▸ same, text⟩
  · cases checked

theorem reply_of_firstOutcome (given : firstOutcome client reply = .ok answer) :
    ∃ body, reply = .answer 200 body ∧ answer.text = Text.ofBytesLossy body := by
  unfold firstOutcome at given
  exact reply_of_isOk given

theorem reply_of_secondOutcome (given : secondOutcome client reply = .ok answer) :
    ∃ body, reply = .answer 200 body ∧ answer.text = Text.ofBytesLossy body := by
  unfold secondOutcome at given
  exact reply_of_isOk given

/-- A trip that ends with directions got them in the last of its replies. -/
theorem Trip.exists_reply {start stop : Point} {session : List Exchange}
    {outcome : Except Fault Directions} (trip : Trip client start stop session outcome)
    (given : outcome = .ok answer) :
    ∃ exchange ∈ session, ∃ body, exchange.reply = .answer 200 body ∧
      answer.text = Text.ofBytesLossy body := by
  cases trip with
  | direct => exact ⟨_, .head _, reply_of_firstOutcome given⟩
  | moved => exact ⟨_, .tail _ (.tail _ (.head _)), reply_of_secondOutcome given⟩
  | placed =>
      exact ⟨_, .tail _ (.tail _ (.tail _ (.tail _ (.head _)))), reply_of_secondOutcome given⟩
  | stranded | strandedStart | strandedStop | remote => cases given

/-- A reply that is an answer stands in the script. -/
theorem mem_replies_of_carries {before after : Wire} {session : List Exchange}
    (carried : before.Carries session after) {exchange : Exchange} (member : exchange ∈ session)
    {status : Int} {body : Bytes} (answered : exchange.reply = .answer status body) :
    .answer status body ∈ before.replies := by
  obtain ⟨k, found⟩ := List.mem_iff_getElem?.mp member
  have place := carried.answered k exchange found
  rw [answered] at place
  cases scripted : before.replies[k]? with
  | none =>
      rw [scripted] at place
      cases place
  | some reply =>
      rw [scripted, Option.getD_some] at place
      rw [place]
      exact List.mem_of_getElem? scripted

theorem carries_of_locate {endpoint : Endpoint} {wire after : Wire}
    {found : Except Fault (Option Point)}
    (ran : (locate client endpoint).run wire = (found, after)) :
    ∃ looks, wire.Carries looks after := by
  obtain ⟨looks, outcome, final, same, search⟩ := exists_search client endpoint wire
  obtain ⟨rfl, rfl⟩ := Prod.mk.inj (same.symm.trans ran)
  exact ⟨looks, search.carried⟩

theorem trip_of_ask {start stop : Point} {wire after : Wire} {outcome : Except Fault Directions}
    (ran : (ask client start stop).run wire = (outcome, after)) :
    ∃ session, wire.Carries session after ∧ Trip client start stop session outcome := by
  obtain ⟨session, ended, final, same, carried, trip⟩ := exists_trip client start stop wire
  obtain ⟨rfl, rfl⟩ := Prod.mk.inj (same.symm.trans ran)
  exact ⟨session, carried, trip⟩

theorem ofDirections_eq_ok {route : Route} (read : ofDirections client answer = .ok route) :
    route.points ≠ [] ∧ ofText answer.text client.provider.precisions = .ok route := by
  obtain ⟨found, text, checked⟩ := bind_eq_ok.mp read
  split at checked
  · cases checked
  · rename_i pointed
    obtain rfl := Except.ok.inj checked
    exact ⟨by simpa using pointed, text⟩

/-- A route that was found has points and was read from one of the answers in the script. -/
theorem exists_answer_of_resolve {origin destination : Endpoint} {wire after : Wire}
    {route : Route}
    (found : (resolve client origin destination).run wire = (.ok route, after)) :
    ∃ body, Reply.answer 200 body ∈ wire.replies ∧ route.points ≠ [] ∧
      ofText (Text.ofBytesLossy body) client.provider.precisions = .ok route := by
  obtain ⟨start, middle, ranStart, found⟩ := Work.run_bind_eq_ok.mp found
  obtain ⟨stop, later, ranStop, found⟩ := Work.run_bind_eq_ok.mp found
  obtain ⟨looks, carried⟩ := carries_of_locate ranStart
  obtain ⟨more, carriedMore⟩ := carries_of_locate ranStop
  match start, stop with
  | none, _ | some _, none => cases found
  | some start, some stop =>
      obtain ⟨answer, final, ranAsk, made⟩ := Work.run_bind_eq_ok.mp found
      obtain ⟨session, carriedAll, trip⟩ := trip_of_ask ranAsk
      obtain ⟨exchange, member, body, answered, text⟩ := trip.exists_reply rfl
      obtain ⟨pointed, read⟩ := ofDirections_eq_ok (Prod.mk.inj made).1
      refine ⟨body, ?_, pointed, text ▸ read⟩
      have whole := (carried.append carriedMore).append carriedAll
      exact mem_replies_of_carries whole (List.mem_append_right _ member) answered

/-- No figure of a name is below zero, or not a number. -/
def NoneBelowZero (key : String) (route : Fields) : Prop :=
  ∀ part ∈ measured route, ∀ x, (part.get key).toNumber = .ok x → 0 ≤ x

theorem zero_le_zero : (0 : Float) ≤ 0 := by decide +kernel

/-- What cannot be read counts as zero. -/
theorem quantity_nonneg {value : Json} {x : Float} (read : quantity value = .ok x)
    (sound : ∀ y, value.toNumber = .ok y → 0 ≤ y) : 0 ≤ x := by
  by_cases given : value = .null
  · subst given
    obtain rfl := Except.ok.inj read
    exact zero_le_zero
  · rw [quantity_of_ne_null given] at read
    cases number : value.toNumber with
    | ok y =>
        rw [number] at read
        obtain rfl := Except.ok.inj read
        exact sound y number
    | error cause =>
        rw [number, recoverWhen] at read
        split at read
        · obtain rfl := Except.ok.inj read
          exact zero_le_zero
        · cases read

/-- Sums of figures that are not below zero are not below zero. -/
theorem legs_nonneg {parts : List Fields} {start stop : Float × Float}
    (read : parts.foldlM (fun (metres, seconds) leg => do
      let m ← quantity (leg.get "distance")
      let s ← quantity (leg.get "duration")
      return (metres + m, seconds + s)) start = .ok stop) :
    ((∀ part ∈ parts, ∀ x, (part.get "distance").toNumber = .ok x → 0 ≤ x) →
        0 ≤ start.1 → 0 ≤ stop.1) ∧
      ((∀ part ∈ parts, ∀ x, (part.get "duration").toNumber = .ok x → 0 ≤ x) →
        0 ≤ start.2 → 0 ≤ stop.2) := by
  constructor
  · intro sound begun
    refine foldlM_preserves (fun sums => 0 ≤ sums.1) ?_ begun read
    intro sums leg next member above added
    obtain ⟨m, length, added⟩ := bind_eq_ok.mp added
    obtain ⟨s, -, made⟩ := bind_eq_ok.mp added
    obtain rfl := Except.ok.inj made
    exact Decimal.add_nonneg above (quantity_nonneg length (sound leg member))
  · intro sound begun
    refine foldlM_preserves (fun sums => 0 ≤ sums.2) ?_ begun read
    intro sums leg next member above added
    obtain ⟨m, -, added⟩ := bind_eq_ok.mp added
    obtain ⟨s, duration, made⟩ := bind_eq_ok.mp added
    obtain rfl := Except.ok.inj made
    exact Decimal.add_nonneg above (quantity_nonneg duration (sound leg member))

theorem totals_nonneg {route : Fields} {metres seconds : Float}
    (read : totals route = .ok (metres, seconds)) :
    (NoneBelowZero "distance" route → 0 ≤ metres) ∧
      (NoneBelowZero "duration" route → 0 ≤ seconds) := by
  unfold NoneBelowZero
  cases summary : route.get "summary" with
  | object own =>
      simp only [totals, measured, summary, List.forall_mem_singleton] at read ⊢
      obtain ⟨m, length, read⟩ := bind_eq_ok.mp read
      obtain ⟨s, duration, made⟩ := bind_eq_ok.mp read
      obtain ⟨rfl, rfl⟩ := Prod.mk.inj (Except.ok.inj made)
      exact ⟨quantity_nonneg length, quantity_nonneg duration⟩
  | null | bool | int | float | text | list =>
      simp only [totals, measured, summary] at read ⊢
      obtain ⟨distance, duration⟩ := legs_nonneg read
      exact ⟨fun sound => distance sound zero_le_zero, fun sound => duration sound zero_le_zero⟩

/-- A route as it was read from the body of an answer. -/
structure IsRead (body : Bytes) (route : Route) : Prop where
  /-- It has points. -/
  points : route.points ≠ []
  /-- Its length and duration are those of the first route in the body. -/
  figures : ∃ payload first metres seconds,
    Json.read (Text.ofBytesLossy body) = .ok (.object payload) ∧ FirstRoute payload first ∧
      totals first = .ok (metres, seconds) ∧
      route.distanceKm = metres / 1000 ∧ route.durationHours = seconds / 3600 ∧
      (NoneBelowZero "distance" first → 0 ≤ route.distanceKm) ∧
      (NoneBelowZero "duration" first → 0 ≤ route.durationHours)

theorem ofFields_eq_ok {first : Fields} {precisions : List Int} {route : Route}
    (described : ofFields first precisions = .ok route) :
    ∃ metres seconds, totals first = .ok (metres, seconds) ∧
      route.distanceKm = metres / 1000 ∧ route.durationHours = seconds / 3600 := by
  obtain ⟨⟨metres, seconds⟩, read, drawn⟩ := bind_eq_ok.mp described
  obtain ⟨points, -, made⟩ := bind_eq_ok.mp drawn
  obtain rfl := Except.ok.inj made
  exact ⟨metres, seconds, read, rfl, rfl⟩

theorem isRead_of_ofText {body : Bytes} {provider : Provider} {route : Route}
    (pointed : route.points ≠ [])
    (given : ofText (Text.ofBytesLossy body) provider.precisions = .ok route) :
    IsRead body route := by
  obtain ⟨payload, read⟩ :
      ∃ payload, Json.read (Text.ofBytesLossy body) = .ok (.object payload) := by
    by_contra noObject
    obtain ⟨message, refused⟩ := ofText_of_no_object (not_exists.mp noObject)
    rw [given] at refused
    cases refused
  rw [ofText_of_read read] at given
  rcases ofPayload_eq_ok (areUsable_precisions provider) given with
    ⟨rfl, -⟩ | ⟨first, listed, -⟩
  · exact absurd rfl pointed
  · rw [ofPayload_of_firstRoute listed] at given
    obtain ⟨metres, seconds, totalled, distance, duration⟩ := ofFields_eq_ok given
    obtain ⟨long, lasting⟩ := totals_nonneg totalled
    refine ⟨pointed, payload, first, metres, seconds, read, listed, totalled, distance, duration,
      fun sound => ?_, fun sound => ?_⟩
    · rw [distance]
      exact Decimal.div_nonneg (long sound) (by decide +kernel) (by decide +kernel)
    · rw [duration]
      exact Decimal.div_nonneg (lasting sound) (by decide +kernel) (by decide +kernel)

/-- A route that was found has points and was read from the body of an answer of the map service.
Its length and its duration are not below zero, and so are numbers, unless the answer has a figure
that is below zero or not a number. -/
theorem resolve_isRead {client : Client} {origin destination : Endpoint} {wire after : Wire}
    {route : Route}
    (found : (resolve client origin destination).run wire = (.ok route, after)) :
    ∃ body, Reply.answer 200 body ∈ wire.replies ∧ IsRead body route := by
  obtain ⟨body, answered, pointed, given⟩ := exists_answer_of_resolve found
  exact ⟨body, answered, isRead_of_ofText pointed given⟩

/-- A service that answers with a route of one kilometre. -/
theorem resolve_isRead_kilometre :
    let client : Client := ⟨.ola, "https://maps.example", "key", .int 2000, {}⟩
    let text := "\x7b\"routes\":[\x7b\"summary\":\x7b\"distance\":1000\x7d," ++
      "\"geometry\":[[77,28]]\x7d]\x7d"
    let wire : Wire := .start [.answer 200 (Text.toBytes text)] true
    ∃ route after, (resolve client (.position ⟨77, 28⟩) (.position ⟨77, 28⟩)).run wire =
        (.ok route, after) ∧
      ∃ body, Reply.answer 200 body ∈ wire.replies ∧ IsRead body route := by
  intro client text wire
  have given : ((resolve client (.position ⟨77, 28⟩) (.position ⟨77, 28⟩)).run
      wire).1.toOption.isSome = true := by
    decide +kernel
  obtain ⟨route, given⟩ := Option.isSome_iff_exists.mp given
  have found : (resolve client (.position ⟨77, 28⟩) (.position ⟨77, 28⟩)).run wire =
      (.ok route, _) := Prod.ext (toOption_eq_some_iff.mp given) rfl
  exact ⟨route, _, found, resolve_isRead found⟩

/-- A service that answers with a length below zero is believed. -/
theorem not_resolve_nonneg :
    ¬ ∀ (client : Client) (origin destination : Endpoint) (wire after : Wire) (route : Route),
      (resolve client origin destination).run wire = (.ok route, after) →
        0 ≤ route.distanceKm ∧ 0 ≤ route.durationHours := by
  intro all
  let client : Client := ⟨.ola, "https://maps.example", "key", .int 2000, {}⟩
  let text := "\x7b\"routes\":[\x7b\"summary\":\x7b\"distance\":-1000\x7d," ++
    "\"geometry\":[[77,28]]\x7d]\x7d"
  let wire : Wire := .start [.answer 200 (Text.toBytes text)] true
  have below : ((resolve client (.position ⟨77, 28⟩) (.position ⟨77, 28⟩)).run
      wire).1.toOption.map (fun route => decide (0 ≤ route.distanceKm)) = some false := by
    decide +kernel
  obtain ⟨route, given, negative⟩ := Option.map_eq_some_iff.mp below
  have found : (resolve client (.position ⟨77, 28⟩) (.position ⟨77, 28⟩)).run wire =
      (.ok route, _) := Prod.ext (toOption_eq_some_iff.mp given) rfl
  exact of_decide_eq_false negative (all _ _ _ _ _ _ found).1

end JourneyCost.Route
