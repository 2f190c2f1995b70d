import JourneyCost.Proofs.Route.Blame
import JourneyCost.Proofs.Route.Validity

/-!
# Courses of finding a route

Finding a route takes one of four courses: a look-up of one of the endpoints could not be read, one
of them has no place, or both have and there is a trip between them.
-/

namespace JourneyCost.Route

open Net Map

variable {client : Client} {origin destination : Endpoint} {looks session : List Exchange}
  {reply : Reply} {outcome : Except Fault Route} {ended : Except Fault Directions} {fault : Fault}

/-- What comes of a call for directions, with the fault for a status that refuses them. -/
inductive Comes (client : Client) (refuse : Int → Fault) : Reply → Except Fault Route → Prop
  /-- There was no answer. -/
  | unanswered {reply : Reply} {fault : Fault} :
      (∀ k body, reply ≠ .answer k body) → HandedOn fault → Comes client refuse reply (.error fault)
  /-- The answer refuses directions. -/
  | refused {k : Int} {body : Bytes} :
      k ≠ 200 → Comes client refuse (.answer k body) (.error (refuse k))
  /-- The directions cannot be read. -/
  | unread {body : Bytes} {fault : Fault} :
      ofText (Text.ofBytesLossy body) client.provider.precisions = .error fault →
      HandedOn fault → Comes client refuse (.answer 200 body) (.error fault)
  /-- The directions have no points. -/
  | pointless {body : Bytes} {route : Route} :
      ofText (Text.ofBytesLossy body) client.provider.precisions = .ok route →
      route.points = [] → Comes client refuse (.answer 200 body)
        (.error (.routeUnavailable "Route returned no points" "route_has_no_points"))
  /-- The directions lead to a route. -/
  | found {body : Bytes} {route : Route} :
      ofText (Text.ofBytesLossy body) client.provider.precisions = .ok route →
      route.points ≠ [] → Comes client refuse (.answer 200 body) (.ok route)

/-- The fault of a first call whose answer refuses directions. -/
def refusal (k : Int) : Fault :=
  .providerFailed "Directions request failed" (some k) (statusReason k)

/-- The fault of a second call whose answer refuses directions. -/
def refusalAgain (k : Int) : Fault :=
  .routeUnavailable "Directions retry after snapping failed" (statusReason k)

theorem comes_of_isOk (refuse : Int → Fault) (reply : Reply) :
    Comes client refuse reply ((client.directionsIn reply >>= fun answer =>
      if answer.isOk then .ok answer else .error (refuse answer.status)) >>=
        ofDirections client) := by
  cases read : client.directionsIn reply with
  | error fault =>
      refine .unanswered ?_ (handedOn_of_directionsIn read)
      rintro k body rfl
      cases read
  | ok answer =>
      obtain ⟨body, rfl, text⟩ := reply_of_directionsIn read
      obtain ⟨k, _⟩ := answer
      subst text
      by_cases given : k = 200
      · subst given
        change Comes client refuse _ (ofDirections client _)
        unfold ofDirections
        cases parsed : ofText (Text.ofBytesLossy body) client.provider.precisions with
        | error fault => exact .unread parsed (handedOn_of_ofText parsed)
        | ok route =>
            rw [ok_bind]
            split
            · rename_i empty
              exact .pointless parsed (List.isEmpty_iff.mp empty)
            · rename_i pointed
              exact .found parsed fun empty => pointed (List.isEmpty_iff.mpr empty)
      · have refused : (Directions.mk k (Text.ofBytesLossy body)).isOk = false :=
          beq_eq_false_iff_ne.mpr given
        simp only [ok_bind, refused, Bool.false_eq_true, if_false]
        exact .refused given

theorem comes_firstOutcome (client : Client) (reply : Reply) :
    Comes client refusal reply (firstOutcome client reply >>= ofDirections client) :=
  comes_of_isOk refusal reply

theorem comes_secondOutcome (client : Client) (reply : Reply) :
    Comes client refusalAgain reply (secondOutcome client reply >>= ofDirections client) :=
  comes_of_isOk refusalAgain reply

theorem Comes.eq_of_refused {refuse : Int → Fault} {k : Int} {body : Bytes}
    (comes : Comes client refuse (.answer k body) outcome) (refused : k ≠ 200) :
    outcome = .error (refuse k) := by
  cases comes with
  | unanswered never => exact absurd rfl (never k body)
  | refused => rfl
  | unread | pointless | found => exact absurd rfl refused

/-- A call for directions is not blamed on the request. -/
theorem Comes.accepted {refuse : Int → Fault} (refuses : ∀ k, (refuse k).isInvalidInput = false)
    (comes : Comes client refuse reply (.error fault)) : fault.isInvalidInput = false := by
  cases comes with
  | unanswered never handed => exact handed.accepted
  | refused => exact refuses _
  | unread read handed => exact handed.accepted
  | pointless => rfl

/-- What the look-up of an endpoint gave. -/
inductive Found (client : Client) :
    Endpoint → List Exchange → Except Fault (Option Point) → Prop
  /-- A position needs no look-up. -/
  | position (point : Point) : Found client (.position point) [] (.ok (some point))
  /-- The place was known. -/
  | known (name : String) (place : Point) : Found client (.named name) [] (.ok (some place))
  /-- The place was looked up. -/
  | asked (name : String) (reply : Reply) :
      Found client (.named name) [⟨client.geocodeCall name, reply⟩] (client.placeIn reply)

/-- A session of finding a route, with its outcome. -/
inductive Course (client : Client) (origin destination : Endpoint) :
    List Exchange → Except Fault Route → Prop
  /-- The look-up of the origin could not be read. -/
  | unreadOrigin {looks : List Exchange} {fault : Fault} :
      Found client origin looks (.error fault) →
      Course client origin destination looks (.error fault)
  /-- The look-up of the destination could not be read. -/
  | unreadDestination {looks more : List Exchange} {start : Option Point} {fault : Fault} :
      Found client origin looks (.ok start) → Found client destination more (.error fault) →
      Course client origin destination (looks ++ more) (.error fault)
  /-- One of the endpoints has no place. -/
  | lost {looks more : List Exchange} {start stop : Option Point} :
      Found client origin looks (.ok start) → Found client destination more (.ok stop) →
      start = none ∨ stop = none →
      Course client origin destination (looks ++ more) (.error .geocodeFailed)
  /-- Both endpoints have a place. -/
  | trip {looks more session : List Exchange} {start stop : Point}
      {ended : Except Fault Directions} :
      Found client origin looks (.ok (some start)) →
      Found client destination more (.ok (some stop)) → Trip client start stop session ended →
      Course client origin destination (looks ++ more ++ session) (ended >>= ofDirections client)

theorem Found.told {endpoint : Endpoint} {found : Except Fault (Option Point)}
    (here : Found client endpoint looks found) :
    ∀ e ∈ looks, e.call.purpose = .geocode ∧ client.placeIn e.reply = found := by
  cases here with
  | position | known => simp
  | asked name reply => simp

/-- An endpoint without a place was looked up. -/
theorem Found.missing {endpoint : Endpoint} (here : Found client endpoint looks (.ok none)) :
    ∃ name reply, endpoint = .named name ∧ ⟨client.geocodeCall name, reply⟩ ∈ looks ∧
      client.placeIn reply = .ok none := by
  generalize none : Except.ok none = found at here
  cases here with
  | position | known => cases none
  | asked name reply => exact ⟨name, reply, rfl, List.mem_singleton_self _, rfl⟩

theorem Found.unread {endpoint : Endpoint} (here : Found client endpoint looks (.error fault)) :
    HandedOn fault ∧ ∃ e ∈ looks, e.call.purpose = .geocode ∧
      client.placeIn e.reply = .error fault := by
  generalize raised : Except.error fault = found at here
  cases here with
  | position | known => cases raised
  | asked name reply =>
      refine ⟨handedOn_of_placeIn raised.symm, _, List.mem_singleton_self _, ?_, rfl⟩
      exact Client.purpose_geocodeCall client name

theorem Found.append {looks more : List Exchange} {here there : Except Fault (Option Point)}
    (first : Found client origin looks here) (second : Found client destination more there) :
    ∀ e ∈ looks ++ more, e.call.purpose = .geocode ∧
      (client.placeIn e.reply = here ∨ client.placeIn e.reply = there) := by
  intro e member
  rcases List.mem_append.mp member with early | late
  · exact ⟨(first.told e early).1, .inl (first.told e early).2⟩
  · exact ⟨(second.told e late).1, .inr (second.told e late).2⟩

theorem exists_found (client : Client) (endpoint : Endpoint) (wire : Wire) :
    ∃ looks found after, (locate client endpoint).run wire = (found, after) ∧
      wire.Carries looks after ∧ Found client endpoint looks found := by
  cases endpoint with
  | position point => exact ⟨[], _, wire, rfl, .refl wire, .position point⟩
  | named name =>
      rw [locate, Client.run_geocode]
      cases wire.known? (client.placeKey name) with
      | some place => exact ⟨[], _, wire, rfl, .refl wire, .known name place⟩
      | none =>
          refine ⟨_, _, _, Client.run_lookUp client name wire, ?_, .asked name wire.nextReply⟩
          exact Client.carries_noting _ _ (Wire.carries_afterCall wire _)

/-- Finding a route takes one of the courses. -/
theorem exists_course (client : Client) (origin destination : Endpoint) (wire : Wire) :
    ∃ session, wire.Carries session ((resolve client origin destination).run wire).2 ∧
      Course client origin destination session
        ((resolve client origin destination).run wire).1 := by
  obtain ⟨looks, found, middle, ran, carried, here⟩ := exists_found client origin wire
  rw [resolve, Work.run_bind, ran]
  cases found with
  | error fault => exact ⟨looks, carried, .unreadOrigin here⟩
  | ok start =>
      obtain ⟨more, other, after, ranNext, carriedNext, there⟩ :=
        exists_found client destination middle
      have both := carried.append carriedNext
      simp only [Work.run_bind, ranNext]
      cases other with
      | error fault => exact ⟨looks ++ more, both, .unreadDestination here there⟩
      | ok stop =>
          cases start with
          | none => exact ⟨looks ++ more, both, .lost here there (.inl rfl)⟩
          | some start =>
              cases stop with
              | none => exact ⟨looks ++ more, both, .lost here there (.inr rfl)⟩
              | some stop =>
                  obtain ⟨session, ended, final, ranAsk, carriedAsk, trip⟩ :=
                    exists_trip client start stop after
                  have whole := both.append carriedAsk
                  have course := Course.trip here there trip
                  simp only [Work.run_bind, ranAsk]
                  cases ended with
                  | error fault => exact ⟨_, whole, course⟩
                  | ok answer => exact ⟨_, whole, course⟩

/-- No place is looked up on a trip. -/
theorem Trip.no_lookUps {start stop : Point} (trip : Trip client start stop session ended) :
    ∀ e ∈ session, e.call.purpose ≠ .geocode := by
  cases trip <;> simp

end JourneyCost.Route
