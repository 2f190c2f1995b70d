import JourneyCost.Proofs.Route.Course
import JourneyCost.Proofs.Work

/-!
# How finding a route ends

The calls of a session and their replies decide how finding a route ends: with the route in the
last reply, with one of the faults that are made up on the way, each for its own reason, or with a
fault that was handed on.
-/

namespace JourneyCost

open Net Map

namespace Route

/-- The calls for directions of a session, with their replies. -/
def asks (session : List Exchange) : List Exchange :=
  session.filter fun e => e.call.purpose == .directions

/-- All look-ups could be read, and one of an endpoint found no place. -/
structure IsLost (client : Client) (origin destination : Endpoint)
    (session : List Exchange) : Prop where
  /-- All look-ups could be read. -/
  read : ∀ e ∈ session, e.call.purpose = .geocode → ∃ place, client.placeIn e.reply = .ok place
  /-- One of them found no place. -/
  missing : ∃ name reply, (origin = .named name ∨ destination = .named name) ∧
    ⟨client.geocodeCall name, reply⟩ ∈ session ∧ client.placeIn reply = .ok none

/-- The ends could not be moved: an end is off the road, fewer than two points were snapped, and
there is no place near one of the ends. -/
structure IsRemote (client : Client) (session : List Exchange) : Prop where
  /-- Directions were refused for an end off the road. -/
  offRoad : ∃ e, (asks session).head? = some e ∧ OffRoad client e.reply
  /-- Fewer than two points were snapped. -/
  few : ∃ e ∈ session, e.call.purpose = .snap ∧
    ∃ points, client.snappedIn e.reply = .ok points ∧ points.length < 2
  /-- The places nearest to the ends could be read. -/
  read : ∀ e ∈ session, e.call.purpose = .reverse → ∃ near, client.nearestIn e.reply = .ok near
  /-- One of them is missing. -/
  missing : ∃ e ∈ session, e.call.purpose = .reverse ∧ client.nearestIn e.reply = .ok none

/-- How finding a route ends, as the session decides it. -/
structure Decides (client : Client) (origin destination : Endpoint) (session : List Exchange)
    (outcome : Except Fault Route) : Prop where
  /-- A route is the one in the last reply, which gave directions. -/
  route : ∀ route, outcome = .ok route → ∃ e body, session.getLast? = some e ∧
    e.call.purpose = .directions ∧ e.reply = .answer 200 body ∧
    ofText (Text.ofBytesLossy body) client.provider.precisions = .ok route
  /-- An endpoint has no place. -/
  lost : outcome = .error .geocodeFailed ↔ IsLost client origin destination session
  /-- Then directions were never asked for. -/
  unasked : outcome = .error .geocodeFailed → asks session = []
  /-- Directions were refused for another reason than an end off the road. -/
  refused : ∀ k : Int,
    (∃ message status,
      outcome = .error (.providerFailed message status ("directions_http_" ++ toString k))) ↔
    ∃ e body, (asks session).head? = some e ∧ e.reply = .answer k body ∧ k ≠ 200 ∧
      Client.isUnroutable client.provider ⟨k, Text.ofBytesLossy body⟩ = false
  /-- The ends could not be moved. -/
  remote : (∃ message, outcome = .error (.routeUnavailable message "could_not_snap_points")) ↔
    IsRemote client session
  /-- Directions were refused again. -/
  refusedAgain : ∀ k : Int,
    (∃ message,
      outcome = .error (.routeUnavailable message ("directions_http_" ++ toString k))) ↔
    ∃ e body, (asks session)[1]? = some e ∧ e.reply = .answer k body ∧ k ≠ 200
  /-- The directions that were given have no points. -/
  pointless : (∃ message, outcome = .error (.routeUnavailable message "route_has_no_points")) ↔
    ∃ e body route, (asks session).getLast? = some e ∧ e.reply = .answer 200 body ∧
      ofText (Text.ofBytesLossy body) client.provider.precisions = .ok route ∧ route.points = []

variable {client : Client} {origin destination : Endpoint} {looks session : List Exchange}
  {reply : Reply} {outcome : Except Fault Route} {ended : Except Fault Directions} {fault : Fault}

theorem asks_lookUps (onlyLookUps : ∀ e ∈ looks, e.call.purpose = .geocode) :
    asks looks = [] := by
  apply List.filter_eq_nil_iff.mpr
  intro e member
  rw [onlyLookUps e member]
  decide

theorem asks_append_lookUps (onlyLookUps : ∀ e ∈ looks, e.call.purpose = .geocode) :
    asks (looks ++ session) = asks session := by
  have none := asks_lookUps onlyLookUps
  rw [asks] at none ⊢
  rw [List.filter_append, none, List.nil_append]
  rfl

/-- Look-ups are neither snaps nor questions for the nearest place. -/
theorem mem_append_lookUps (onlyLookUps : ∀ e ∈ looks, e.call.purpose = .geocode) {e : Exchange}
    (other : e.call.purpose ≠ .geocode) : e ∈ looks ++ session ↔ e ∈ session := by
  rw [List.mem_append, or_iff_right]
  exact fun member => other (onlyLookUps e member)

theorem isRemote_append_lookUps (onlyLookUps : ∀ e ∈ looks, e.call.purpose = .geocode) :
    IsRemote client (looks ++ session) ↔ IsRemote client session := by
  have member : ∀ {e : Exchange} {purpose : Purpose}, purpose ≠ .geocode →
      e.call.purpose = purpose → (e ∈ looks ++ session ↔ e ∈ session) := by
    rintro e purpose other rfl
    exact mem_append_lookUps onlyLookUps other
  constructor
  · rintro ⟨offRoad, ⟨e, inside, snap, few⟩, read, ⟨e', inside', reverse, missing⟩⟩
    rw [asks_append_lookUps onlyLookUps] at offRoad
    refine ⟨offRoad, ⟨e, (member (by decide) snap).mp inside, snap, few⟩, ?_,
      ⟨e', (member (by decide) reverse).mp inside', reverse, missing⟩⟩
    exact fun e later => read e (List.mem_append_right _ later)
  · rintro ⟨offRoad, ⟨e, inside, snap, few⟩, read, ⟨e', inside', reverse, missing⟩⟩
    rw [← asks_append_lookUps onlyLookUps] at offRoad
    refine ⟨offRoad, ⟨e, List.mem_append_right _ inside, snap, few⟩, ?_,
      ⟨e', List.mem_append_right _ inside', reverse, missing⟩⟩
    exact fun e either asked => read e ((member (by decide) asked).mp either) asked

theorem not_isRemote_of_asks (unasked : asks session = []) : ¬ IsRemote client session := by
  rintro ⟨⟨e, first, -⟩, -, -, -⟩
  rw [unasked] at first
  cases first

/-- What the calls after the look-ups came to. -/
inductive Settles (client : Client) : List Exchange → Except Fault Directions → Prop
  /-- The first reply settles it. -/
  | first {session : List Exchange} (e : Exchange) :
      asks session = [e] → session.getLast? = some e → ¬ OffRoad client e.reply →
      Settles client session (firstOutcome client e.reply)
  /-- The ends could not be read. -/
  | unread {session : List Exchange} {fault : Fault} (e : Exchange) :
      asks session = [e] → OffRoad client e.reply → ¬ IsRemote client session → HandedOn fault →
      Settles client session (.error fault)
  /-- The ends could not be moved. -/
  | remote {session : List Exchange} (e : Exchange) :
      asks session = [e] → OffRoad client e.reply → IsRemote client session →
      Settles client session notMoved
  /-- Directions were asked for again. -/
  | again {session : List Exchange} (e f : Exchange) :
      asks session = [e, f] → session.getLast? = some f → OffRoad client e.reply →
      ¬ IsRemote client session → Settles client session (secondOutcome client f.reply)

/-- A trip settles what becomes of the directions. -/
theorem Trip.settles {start stop : Point} (trip : Trip client start stop session ended) :
    Settles client session ended := by
  cases trip with
  | direct settled =>
      refine .first ⟨_, _⟩ ?_ rfl settled
      simp [asks]
  | stranded offRoad unread =>
      refine .unread ⟨client.directionsCall start stop, _⟩ ?_ offRoad ?_
        (handedOn_of_snappedIn unread)
      · simp [asks]
      · rintro ⟨-, -, -, missing⟩
        simp at missing
  | moved offRoad read =>
      refine .again ⟨client.directionsCall start stop, _⟩ ⟨_, _⟩ ?_ rfl offRoad ?_
      · simp [asks]
      · rintro ⟨-, -, -, missing⟩
        simp at missing
  | strandedStart offRoad read few unread =>
      refine .unread ⟨client.directionsCall start stop, _⟩ ?_ offRoad ?_
        (handedOn_of_nearestIn unread)
      · simp [asks]
      · rintro ⟨-, -, -, missing⟩
        simp [unread] at missing
  | strandedStop offRoad read few nearStart unread =>
      refine .unread ⟨client.directionsCall start stop, _⟩ ?_ offRoad ?_
        (handedOn_of_nearestIn unread)
      · simp [asks]
      · rintro ⟨-, -, read, -⟩
        simp [unread] at read
  | remote offRoad read few nearStart nearStop missing =>
      refine .remote ⟨client.directionsCall start stop, _⟩ ?_ offRoad
        ⟨⟨⟨client.directionsCall start stop, _⟩, ?_, offRoad⟩, ?_, ?_, ?_⟩
      · simp [asks]
      · simp [asks]
      · exact ⟨⟨_, _⟩, .tail _ (.head _), Client.purpose_snapCall .., _, read, few⟩
      · simp [nearStart, nearStop]
      · rcases missing with rfl | rfl
        · exact ⟨⟨_, _⟩, .tail _ (.tail _ (.head _)), Client.purpose_reverseCall .., nearStart⟩
        · exact ⟨⟨_, _⟩, .tail _ (.tail _ (.tail _ (.head _))), Client.purpose_reverseCall ..,
            nearStop⟩
  | placed offRoad read few nearStart nearStop =>
      refine .again ⟨client.directionsCall start stop, _⟩ ⟨_, _⟩ ?_ rfl offRoad ?_
      · simp [asks]
      · rintro ⟨-, -, -, missing⟩
        simp [nearStart, nearStop] at missing

/-- Look-ups before it do not matter to what a session settles. -/
theorem Settles.append (settles : Settles client session ended)
    (onlyLookUps : ∀ e ∈ looks, e.call.purpose = .geocode) :
    Settles client (looks ++ session) ended := by
  have sameAsks : asks (looks ++ session) = asks session := asks_append_lookUps onlyLookUps
  have sameRemote : IsRemote client (looks ++ session) ↔ IsRemote client session :=
    isRemote_append_lookUps onlyLookUps
  have last : ∀ {e : Exchange}, session.getLast? = some e →
      (looks ++ session).getLast? = some e := by
    intro e last
    rw [List.getLast?_append, last, Option.some_or]
  cases settles with
  | first e one lastOne settled => exact .first e (sameAsks.trans one) (last lastOne) settled
  | unread e one offRoad near handed =>
      exact .unread e (sameAsks.trans one) offRoad (near ∘ sameRemote.mp) handed
  | remote e one offRoad far => exact .remote e (sameAsks.trans one) offRoad (sameRemote.mpr far)
  | again e f two lastOne offRoad near =>
      exact .again e f (sameAsks.trans two) (last lastOne) offRoad (near ∘ sameRemote.mp)

/-- No endpoint is without a place, no answer refused directions for good, and the ends could be
moved if they had to be. -/
structure Unhindered (client : Client) (origin destination : Endpoint)
    (session : List Exchange) : Prop where
  /-- No endpoint is without a place. -/
  found : ¬ IsLost client origin destination session
  /-- Directions were not refused for another reason than an end off the road. -/
  unrefused : ∀ k, ¬ ∃ e body, (asks session).head? = some e ∧ e.reply = .answer k body ∧ k ≠ 200 ∧
    Client.isUnroutable client.provider ⟨k, Text.ofBytesLossy body⟩ = false
  /-- The ends could be moved. -/
  near : ¬ IsRemote client session
  /-- Directions were not refused again. -/
  given : ∀ k, ¬ ∃ e body, (asks session)[1]? = some e ∧ e.reply = .answer k body ∧ k ≠ 200

theorem unhindered_of_unasked (found : ¬ IsLost client origin destination session)
    (unasked : asks session = []) : Unhindered client origin destination session := by
  refine ⟨found, ?_, not_isRemote_of_asks unasked, ?_⟩ <;> simp [unasked]

/-- A fault that was handed on is none of those that are made up. -/
theorem Unhindered.handedOn (unhindered : Unhindered client origin destination session)
    (handed : HandedOn fault)
    (unread : ∀ e, (asks session).getLast? = some e → ∀ body, e.reply = .answer 200 body →
      ∀ route, ofText (Text.ofBytesLossy body) client.provider.precisions ≠ .ok route) :
    Decides client origin destination session (.error fault) where
  route := by simp
  lost := iff_of_false (fun same => handed.placed (Except.error.inj same)) unhindered.found
  unasked same := absurd (Except.error.inj same) handed.placed
  refused k := by
    refine iff_of_false ?_ (unhindered.unrefused k)
    rintro ⟨message, status, same⟩
    exact handed.served message status k (Except.error.inj same)
  remote := by
    refine iff_of_false ?_ unhindered.near
    rintro ⟨message, same⟩
    have reason := handed.parsed message _ (Except.error.inj same)
    exact absurd reason (by decide)
  refusedAgain k := by
    refine iff_of_false ?_ (unhindered.given k)
    rintro ⟨message, same⟩
    have reason := handed.parsed message _ (Except.error.inj same)
    exact parseError_ne_statusReason k reason.symm
  pointless := by
    apply iff_of_false
    · rintro ⟨message, same⟩
      have reason := handed.parsed message _ (Except.error.inj same)
      exact absurd reason (by decide)
    · rintro ⟨e, body, route, last, answered, read, -⟩
      exact unread e last body answered route read

theorem purpose_of_mem_asks {e : Exchange} (asked : e ∈ asks session) :
    e.call.purpose = .directions :=
  beq_iff_eq.mp (List.mem_filter.mp asked).2

/-- A last call for directions that was not refused decides alone. -/
theorem Unhindered.comes (unhindered : Unhindered client origin destination session)
    {refuse : Int → Fault} {call : Call} (last : session.getLast? = some ⟨call, reply⟩)
    (lastAsk : (asks session).getLast? = some ⟨call, reply⟩)
    (unrefused : ∀ k body, reply = .answer k body → k = 200)
    (comes : Comes client refuse reply outcome) :
    Decides client origin destination session outcome := by
  cases comes with
  | unanswered never handed =>
      apply unhindered.handedOn handed
      simp [lastAsk, never]
  | unread unread handed =>
      apply unhindered.handedOn handed
      simp [lastAsk, unread]
  | refused refused => exact absurd (unrefused _ _ rfl) refused
  | pointless read empty =>
      refine ⟨by simp, iff_of_false (by simp) unhindered.found, by simp, ?_, ?_, ?_, ?_⟩
      · exact fun k => iff_of_false (by simp) (unhindered.unrefused k)
      · exact iff_of_false (by simp) unhindered.near
      · refine fun k => iff_of_false ?_ (unhindered.given k)
        rintro ⟨message, same⟩
        have reason := (Fault.routeUnavailable.inj (Except.error.inj same)).2
        exact noPoints_ne_statusReason k reason
      · exact iff_of_true ⟨_, rfl⟩ ⟨_, _, _, lastAsk, rfl, read, empty⟩
  | found read pointed =>
      refine ⟨?_, iff_of_false (by simp) unhindered.found, by simp, ?_, ?_, ?_, ?_⟩
      · rintro route ⟨⟩
        exact ⟨_, _, last, purpose_of_mem_asks (List.mem_of_getLast? lastAsk), rfl, read⟩
      · exact fun k => iff_of_false (by simp) (unhindered.unrefused k)
      · exact iff_of_false (by simp) unhindered.near
      · exact fun k => iff_of_false (by simp) (unhindered.given k)
      · simp [lastAsk, read, pointed]

/-! ## Each way to an end -/

/-- Directions that were refused for an end off the road were not refused for another reason. -/
theorem OffRoad.unrefused {e : Exchange} (offRoad : OffRoad client e.reply)
    (first : (asks session).head? = some e) (k : Int) :
    ¬ ∃ e body, (asks session).head? = some e ∧ e.reply = .answer k body ∧ k ≠ 200 ∧
      Client.isUnroutable client.provider ⟨k, Text.ofBytesLossy body⟩ = false := by
  rintro ⟨f, body, same, answered, -, routable⟩
  obtain rfl := Option.some.inj (first.symm.trans same)
  obtain ⟨answer, read, -, unroutable⟩ := offRoad
  rw [answered] at read
  obtain rfl := Except.ok.inj read
  rw [routable] at unroutable
  cases unroutable

theorem IsLost.decides (lost : IsLost client origin destination session)
    (unasked : asks session = []) :
    Decides client origin destination session (.error .geocodeFailed) where
  route := by simp
  lost := iff_of_true rfl lost
  unasked _ := unasked
  refused := by simp [unasked]
  remote := iff_of_false (by simp) (not_isRemote_of_asks unasked)
  refusedAgain := by simp [unasked]
  pointless := by simp [unasked]

/-- The only answer refused directions for another reason than an end off the road. -/
theorem decides_refused {call : Call} {k : Int} {body : Bytes}
    (one : asks session = [⟨call, .answer k body⟩]) (refused : k ≠ 200)
    (found : ¬ IsLost client origin destination session)
    (settled : ¬ OffRoad client (.answer k body)) (near : ¬ IsRemote client session) :
    Decides client origin destination session (.error (refusal k)) where
  route := by simp
  lost := iff_of_false (by simp [refusal]) found
  unasked := by simp [refusal]
  refused j := by
    change (∃ message status, Except.error (refusal k) =
      .error (.providerFailed message status (statusReason j))) ↔ _
    simp only [refusal, Except.error.injEq, Fault.providerFailed.injEq, statusReason_inj, one]
    constructor
    · rintro ⟨message, status, -, -, rfl⟩
      refine ⟨_, body, rfl, rfl, refused, Bool.eq_false_iff.mpr ?_⟩
      exact fun unroutable => settled ⟨_, rfl, refused, unroutable⟩
    · rintro ⟨e, body, first, answered, -⟩
      obtain rfl := Option.some.inj first
      exact ⟨_, _, rfl, rfl, (Reply.answer.inj answered).1⟩
  remote := iff_of_false (by simp [refusal]) near
  refusedAgain := by simp [one, refusal]
  pointless := by simp [one, refusal, refused]

theorem decides_refusedAgain {e : Exchange} {call : Call} {k : Int} {body : Bytes}
    (two : asks session = [e, ⟨call, .answer k body⟩]) (refused : k ≠ 200)
    (found : ¬ IsLost client origin destination session) (offRoad : OffRoad client e.reply)
    (near : ¬ IsRemote client session) :
    Decides client origin destination session (.error (refusalAgain k)) where
  route := by simp
  lost := iff_of_false (by simp [refusalAgain]) found
  unasked := by simp [refusalAgain]
  refused j := iff_of_false (by simp [refusalAgain]) (offRoad.unrefused (two ▸ rfl) j)
  remote := by
    refine iff_of_false ?_ near
    rintro ⟨message, same⟩
    have reason := (Fault.routeUnavailable.inj (Except.error.inj same)).2
    exact notMoved_ne_statusReason k reason.symm
  refusedAgain j := by
    change (∃ message, Except.error (refusalAgain k) =
      .error (.routeUnavailable message (statusReason j))) ↔ _
    simp only [refusalAgain, Except.error.injEq, Fault.routeUnavailable.injEq, statusReason_inj,
      two]
    constructor
    · rintro ⟨message, -, rfl⟩
      exact ⟨_, body, rfl, rfl, refused⟩
    · rintro ⟨f, body, second, answered, -⟩
      obtain rfl := Option.some.inj second
      exact ⟨_, rfl, (Reply.answer.inj answered).1⟩
  pointless := by
    apply iff_of_false
    · rintro ⟨message, same⟩
      have reason := (Fault.routeUnavailable.inj (Except.error.inj same)).2
      exact noPoints_ne_statusReason k reason.symm
    · simp [two, refused]

/-- The ends could not be moved. -/
theorem IsRemote.decides {e : Exchange} (far : IsRemote client session) (one : asks session = [e])
    (found : ¬ IsLost client origin destination session) (offRoad : OffRoad client e.reply) :
    Decides client origin destination session
      (.error (.routeUnavailable "Could not snap points to road" "could_not_snap_points")) where
  route := by simp
  lost := iff_of_false (by simp) found
  unasked := by simp
  refused k := iff_of_false (by simp) (offRoad.unrefused (one ▸ rfl) k)
  remote := iff_of_true ⟨_, rfl⟩ far
  refusedAgain k := by
    refine iff_of_false ?_ (by simp [one])
    rintro ⟨message, same⟩
    have reason := (Fault.routeUnavailable.inj (Except.error.inj same)).2
    exact notMoved_ne_statusReason k reason
  pointless := by
    refine iff_of_false (by simp) ?_
    rintro ⟨f, body, route, last, answered, -⟩
    rw [one] at last
    obtain rfl := Option.some.inj last
    exact OffRoad.not_answer_ok (answered ▸ offRoad)

/-- Directions were asked for once, and not again. -/
theorem decides_first {call : Call} (one : asks session = [⟨call, reply⟩])
    (last : session.getLast? = some ⟨call, reply⟩)
    (found : ¬ IsLost client origin destination session) (settled : ¬ OffRoad client reply) :
    Decides client origin destination session
      (firstOutcome client reply >>= ofDirections client) := by
  have comes := comes_firstOutcome client reply
  have near : ¬ IsRemote client session := by
    rintro ⟨⟨f, first, offRoad⟩, -, -, -⟩
    rw [one] at first
    obtain rfl := Option.some.inj first
    exact settled offRoad
  by_cases given : ∀ k body, reply = .answer k body → k = 200
  · refine Unhindered.comes ⟨found, ?_, near, by simp [one]⟩ last (one ▸ rfl) given comes
    rintro k ⟨f, body, first, answered, refused, -⟩
    rw [one] at first
    obtain rfl := Option.some.inj first
    exact refused (given k body answered)
  · push Not at given
    obtain ⟨k, body, rfl, refused⟩ := given
    rw [comes.eq_of_refused refused]
    exact decides_refused one refused found settled near

/-- Directions were asked for again. -/
theorem decides_again {e : Exchange} {call : Call} (two : asks session = [e, ⟨call, reply⟩])
    (last : session.getLast? = some ⟨call, reply⟩)
    (found : ¬ IsLost client origin destination session) (offRoad : OffRoad client e.reply)
    (near : ¬ IsRemote client session) :
    Decides client origin destination session
      (secondOutcome client reply >>= ofDirections client) := by
  have comes := comes_secondOutcome client reply
  by_cases given : ∀ k body, reply = .answer k body → k = 200
  · refine Unhindered.comes ⟨found, offRoad.unrefused (two ▸ rfl), near, ?_⟩ last (two ▸ rfl)
      given comes
    rintro k ⟨f, body, second, answered, refused⟩
    rw [two] at second
    obtain rfl := Option.some.inj second
    exact refused (given k body answered)
  · push Not at given
    obtain ⟨k, body, rfl, refused⟩ := given
    rw [comes.eq_of_refused refused]
    exact decides_refusedAgain two refused found offRoad near

/-- What a session settled decides how finding a route ends. -/
theorem Settles.decides (settles : Settles client session ended)
    (found : ¬ IsLost client origin destination session) :
    Decides client origin destination session (ended >>= ofDirections client) := by
  cases settles with
  | first e one last settled => exact decides_first one last found settled
  | unread e one offRoad near handed =>
      refine Unhindered.handedOn ⟨found, offRoad.unrefused (one ▸ rfl), near, by simp [one]⟩
        handed ?_
      intro f last body answered
      rw [one] at last
      obtain rfl := Option.some.inj last
      exact absurd (answered ▸ offRoad) OffRoad.not_answer_ok
  | remote e one offRoad far => exact far.decides one found offRoad
  | again e f two last offRoad near => exact decides_again two last found offRoad near

/-- A look-up that could not be read decides by its fault. -/
theorem HandedOn.decides (handed : HandedOn fault)
    (onlyLookUps : ∀ e ∈ session, e.call.purpose = .geocode)
    (raised : ∃ e ∈ session, e.call.purpose = .geocode ∧ client.placeIn e.reply = .error fault) :
    Decides client origin destination session (.error fault) := by
  have unasked := asks_lookUps onlyLookUps
  refine (unhindered_of_unasked ?_ unasked).handedOn handed (by simp [unasked])
  rintro ⟨read, -⟩
  obtain ⟨e, member, lookUp, raised⟩ := raised
  obtain ⟨place, found⟩ := read e member lookUp
  rw [raised] at found
  cases found

theorem isLost_of_none {more : List Exchange} {start stop : Option Point}
    (here : Found client origin looks (.ok start))
    (there : Found client destination more (.ok stop)) (missing : start = none ∨ stop = none) :
    IsLost client origin destination (looks ++ more) where
  read e member _ := by
    rcases (here.append there e member).2 with read | read
    · exact ⟨start, read⟩
    · exact ⟨stop, read⟩
  missing := by
    rcases missing with rfl | rfl
    · obtain ⟨name, reply, named, member, none⟩ := here.missing
      exact ⟨name, reply, .inl named, List.mem_append_left _ member, none⟩
    · obtain ⟨name, reply, named, member, none⟩ := there.missing
      exact ⟨name, reply, .inr named, List.mem_append_right _ member, none⟩

/-- No endpoint is without a place if there was a trip. -/
theorem Trip.not_isLost {more : List Exchange} {start stop : Point}
    (trip : Trip client start stop session ended)
    (here : Found client origin looks (.ok (some start)))
    (there : Found client destination more (.ok (some stop))) :
    ¬ IsLost client origin destination (looks ++ more ++ session) := by
  rintro ⟨-, name, reply, -, member, none⟩
  rcases List.mem_append.mp member with early | late
  · rcases (here.append there _ early).2 with read | read
    · cases none.symm.trans read
    · cases none.symm.trans read
  · exact trip.no_lookUps _ late (Client.purpose_geocodeCall client name)

/-- Every course decides how finding a route ends. -/
theorem Course.decides (course : Course client origin destination session outcome) :
    Decides client origin destination session outcome := by
  cases course with
  | unreadOrigin here =>
      obtain ⟨handed, raised⟩ := here.unread
      exact handed.decides (fun e member => (here.told e member).1) raised
  | unreadDestination here there =>
      obtain ⟨handed, e, member, raised⟩ := there.unread
      refine handed.decides (fun e member => (here.append there e member).1) ?_
      exact ⟨e, List.mem_append_right _ member, raised⟩
  | lost here there none =>
      have unasked := asks_lookUps fun e member => (here.append there e member).1
      exact (isLost_of_none here there none).decides unasked
  | trip here there trip =>
      have settles := trip.settles.append fun e member => (here.append there e member).1
      exact settles.decides (trip.not_isLost here there)

theorem Settles.accepted (settles : Settles client session ended)
    (failed : (ended >>= ofDirections client) = .error fault) : fault.isInvalidInput = false := by
  cases settles with
  | first e =>
      have comes := comes_firstOutcome client e.reply
      rw [failed] at comes
      exact comes.accepted fun _ => rfl
  | unread e one offRoad near handed =>
      obtain rfl := Except.error.inj failed
      exact handed.accepted
  | remote =>
      obtain rfl := Except.error.inj failed
      rfl
  | again e f =>
      have comes := comes_secondOutcome client f.reply
      rw [failed] at comes
      exact comes.accepted fun _ => rfl

/-- A route that cannot be found is not blamed on the figures of the request. -/
theorem Course.accepted (course : Course client origin destination session outcome)
    (failed : outcome = .error fault) : fault.isInvalidInput = false := by
  cases course with
  | unreadOrigin here =>
      obtain rfl := Except.error.inj failed
      exact here.unread.1.accepted
  | unreadDestination here there =>
      obtain rfl := Except.error.inj failed
      exact there.unread.1.accepted
  | lost =>
      obtain rfl := Except.error.inj failed
      rfl
  | trip here there trip => exact trip.settles.accepted failed

theorem avoids_resolve (client : Client) (origin destination : Endpoint) :
    Work.Avoids Fault.isInvalidInput (resolve client origin destination) := by
  intro wire fault failed
  obtain ⟨session, -, course⟩ := exists_course client origin destination wire
  exact course.accepted failed

/-- The session of finding a route decides how it ends: with the route in the last reply, with a
fault that is made up for its own reason, or with a fault that was handed on. -/
theorem resolve_decides (client : Client) (origin destination : Endpoint) (wire : Wire) :
    ∃ session, wire.Carries session ((resolve client origin destination).run wire).2 ∧
      Decides client origin destination session
        ((resolve client origin destination).run wire).1 := by
  obtain ⟨session, carried, course⟩ := exists_course client origin destination wire
  exact ⟨session, carried, course.decides⟩

end Route

end JourneyCost
