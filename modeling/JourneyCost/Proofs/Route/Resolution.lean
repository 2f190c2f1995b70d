import JourneyCost.Proofs.Route.Protocol

/-!
# Sessions of finding a route

Finding a route looks both ends up and then makes a trip between them.  Each part adds to a lawful
session, so whatever the replies say the session follows the protocol, and the words of its calls
and its last calls are known from that.
-/

namespace JourneyCost.Route

open Net Map

section

variable {client : Client} {wire middle : Wire} {origin destination : Endpoint}

theorem Lawful.concat {before done : List Exchange} {call : Call}
    (lawful : Lawful client wire origin destination (before ++ done)) (reply : Reply)
    (permitted : Permitted client wire origin destination (before ++ done) call) :
    Lawful client wire origin destination (before ++ (done ++ [⟨call, reply⟩])) := by
  intro history e rest split
  rw [← List.append_assoc] at split
  rcases List.eq_nil_or_concat rest with rfl | ⟨early, last, rfl⟩
  · obtain ⟨rfl, same⟩ := List.append_inj' split rfl
    obtain rfl := List.singleton_inj.mp same
    exact permitted
  · rw [List.concat_eq_append, ← List.cons_append, ← List.append_assoc] at split
    obtain ⟨earlier, -⟩ := List.append_inj' split rfl
    exact lawful history e early earlier

section

variable {looks : List Exchange} {start stop : Point} {asked snapped : Reply}
  {points : List Point}

theorem Ends.lawful_asked (ends : Ends client wire origin destination looks start stop)
    (lookedUp : Lawful client wire origin destination looks) (asked : Reply) :
    Lawful client wire origin destination
      (looks ++ [⟨client.directionsCall start stop, asked⟩]) := by
  have begun : Lawful client wire origin destination (looks ++ []) := by
    rwa [List.append_nil]
  refine begun.concat asked ?_
  rw [List.append_nil]
  exact .ask ends

theorem Ends.lawful_snapped (ends : Ends client wire origin destination looks start stop)
    (lookedUp : Lawful client wire origin destination looks) (offRoad : OffRoad client asked)
    (snapped : Reply) :
    Lawful client wire origin destination
      (looks ++ [⟨client.directionsCall start stop, asked⟩,
        ⟨client.snapCall start stop, snapped⟩]) :=
  (ends.lawful_asked lookedUp asked).concat snapped (.snap ends offRoad)

theorem Ends.lawful_reversed (ends : Ends client wire origin destination looks start stop)
    (lookedUp : Lawful client wire origin destination looks) (offRoad : OffRoad client asked)
    (read : client.snappedIn snapped = .ok points) (few : points.length < 2) (nearStart : Reply) :
    Lawful client wire origin destination
      (looks ++ [⟨client.directionsCall start stop, asked⟩,
        ⟨client.snapCall start stop, snapped⟩, ⟨client.reverseCall start, nearStart⟩]) :=
  (ends.lawful_snapped lookedUp offRoad snapped).concat nearStart
    (.reverseStart ends offRoad read few)

theorem Ends.lawful_reversed_both (ends : Ends client wire origin destination looks start stop)
    (lookedUp : Lawful client wire origin destination looks) (offRoad : OffRoad client asked)
    (read : client.snappedIn snapped = .ok points) (few : points.length < 2)
    (nearStart nearStop : Reply) :
    Lawful client wire origin destination
      (looks ++ [⟨client.directionsCall start stop, asked⟩,
        ⟨client.snapCall start stop, snapped⟩, ⟨client.reverseCall start, nearStart⟩,
        ⟨client.reverseCall stop, nearStop⟩]) :=
  (ends.lawful_reversed lookedUp offRoad read few nearStart).concat nearStop
    (.reverseStop ends offRoad read few)

/-- A trip between the points of both endpoints adds to the look-ups lawfully. -/
theorem Trip.lawful {session : List Exchange} {outcome : Except Fault Directions}
    (trip : Trip client start stop session outcome)
    (ends : Ends client wire origin destination looks start stop)
    (lookedUp : Lawful client wire origin destination looks) :
    Lawful client wire origin destination (looks ++ session) := by
  cases trip with
  | direct settled => exact ends.lawful_asked lookedUp _
  | stranded offRoad unread => exact ends.lawful_snapped lookedUp offRoad _
  | moved offRoad read =>
      refine (ends.lawful_snapped lookedUp offRoad _).concat _
        (.askMoved ends offRoad read ?_ rfl ?_)
      · simp
      · rw [List.getLast?_cons_cons, List.getLast?_cons, List.getLastD_cons,
          List.getLastD_eq_getLast?]
  | strandedStart offRoad read few unread =>
      exact ends.lawful_reversed lookedUp offRoad read few _
  | strandedStop offRoad read few nearStart unread =>
      exact ends.lawful_reversed_both lookedUp offRoad read few _ _
  | remote offRoad read few nearStart nearStop missing =>
      exact ends.lawful_reversed_both lookedUp offRoad read few _ _
  | placed offRoad read few nearStart nearStop =>
      exact (ends.lawful_reversed_both lookedUp offRoad read few _ _).concat _
        (.askPlaced ends offRoad read few nearStart nearStop)

end

/-- Look-ups of the names of endpoints, as many as there are names, are lawful. -/
theorem lawful_of_lookUps {looks : List Exchange}
    (few : looks.length ≤ origin.lookUps + destination.lookUps)
    (named : ∀ e ∈ looks, ∃ name, e.call = client.geocodeCall name ∧
      (origin = .named name ∨ destination = .named name)) :
    Lawful client wire origin destination looks := by
  rintro before e rest rfl
  obtain ⟨name, call, mine⟩ := named e (List.mem_append_right _ List.mem_cons_self)
  rw [call]
  refine .lookUp ?_ ?_ mine
  · intro earlier member
    obtain ⟨query, same, -⟩ := named earlier (List.mem_append_left _ member)
    rw [same, Client.purpose_geocodeCall]
  · rw [List.length_append, List.length_cons] at few
    omega

/-- The places known on one wire are known from another wire and a session. -/
def Explains (client : Client) (wire : Wire) (session : List Exchange) (after : Wire) : Prop :=
  ∀ key place, after.known? key = some place → Known client wire session key place

theorem Known.mono {session more : List Exchange} {key : PlaceKey} {place : Point}
    (known : Known client wire session key place) :
    Known client wire (session ++ more) key place := by
  rcases known with kept | ⟨query, reply, member, found⟩
  · exact .inl kept
  · exact .inr ⟨query, reply, List.mem_append_left _ member, found⟩

theorem HasPoint.mono {session more : List Exchange} {endpoint : Endpoint} {point : Point}
    (has : HasPoint client wire session endpoint point) :
    HasPoint client wire (session ++ more) endpoint point := by
  cases has with
  | position => exact .position point
  | named known => exact .named known.mono

theorem Explains.known {session more : List Exchange} {key : PlaceKey} {place : Point}
    (explained : Explains client wire session middle)
    (known : Known client middle more key place) :
    Known client wire (session ++ more) key place := by
  rcases known with kept | ⟨query, reply, member, found⟩
  · exact (explained key place kept).mono
  · exact .inr ⟨query, reply, List.mem_append_right _ member, found⟩

theorem Explains.hasPoint {session more : List Exchange} {endpoint : Endpoint} {point : Point}
    (explained : Explains client wire session middle)
    (has : HasPoint client middle more endpoint point) :
    HasPoint client wire (session ++ more) endpoint point := by
  cases has with
  | position => exact .position point
  | named known => exact .named (explained.known known)

/-- What looking an endpoint up leads to. -/
structure Search (client : Client) (wire : Wire) (endpoint : Endpoint) (looks : List Exchange)
    (found : Except Fault (Option Point)) (after : Wire) : Prop where
  /-- The look-ups were carried. -/
  carried : wire.Carries looks after
  /-- There was at most one for a name. -/
  few : looks.length ≤ endpoint.lookUps
  /-- They asked for that name. -/
  named : ∀ e ∈ looks, ∃ name, e.call = client.geocodeCall name ∧ endpoint = .named name
  /-- A place that they led to is the point of the endpoint. -/
  has : ∀ point, found = .ok (some point) → HasPoint client wire looks endpoint point
  /-- No other places were learnt. -/
  explained : Explains client wire looks after

theorem explains_refl : Explains client wire [] wire :=
  fun _ _ kept => .inl kept

/-- Places are only learnt from a look-up that found one. -/
theorem explains_noting (name : String) (reply : Reply) :
    Explains client wire [⟨client.geocodeCall name, reply⟩]
      (Client.noting (client.placeKey name) (client.placeIn reply)
        (wire.afterCall (client.geocodeCall name))) := by
  intro key place kept
  unfold Client.noting at kept
  split at kept
  case h_1 found placed =>
    split at kept
    · rw [Wire.known?, List.lookup_cons] at kept
      by_cases same : key = client.placeKey name
      · subst same
        rw [beq_self_eq_true] at kept
        obtain rfl := Option.some.inj kept
        exact .inr ⟨name, reply, List.mem_singleton_self _, rfl, placed⟩
      · rw [beq_false_of_ne same] at kept
        exact .inl kept
    · exact .inl kept
  case h_2 => exact .inl kept

/-- Every endpoint is looked up in this way. -/
theorem exists_search (client : Client) (endpoint : Endpoint) (wire : Wire) :
    ∃ looks found after, (locate client endpoint).run wire = (found, after) ∧
      Search client wire endpoint looks found after := by
  cases endpoint with
  | position point =>
      refine ⟨[], _, _, rfl, .refl wire, Nat.le_refl _, by simp, ?_, explains_refl⟩
      rintro found ⟨⟩
      exact .position point
  | named name =>
      cases known : wire.known? (client.placeKey name) with
      | some place =>
          refine ⟨[], .ok (some place), wire, ?_, .refl wire, Nat.zero_le _, by simp, ?_,
            explains_refl⟩
          · rw [locate, Client.run_geocode, known]
          · rintro found ⟨⟩
            exact .named (.inl known)
      | none =>
          refine ⟨[⟨client.geocodeCall name, wire.nextReply⟩],
            client.placeIn wire.nextReply, _, ?_,
            Client.carries_noting _ _ (Wire.carries_afterCall wire _), Nat.le_refl _, ?_, ?_,
            explains_noting name _⟩
          · rw [locate, Client.run_geocode, known, Client.run_lookUp]
          · rintro e member
            obtain rfl := List.mem_singleton.mp member
            exact ⟨name, rfl, rfl⟩
          · intro point found
            exact .named (.inr ⟨name, _, List.mem_singleton_self _, rfl, found⟩)

/-- Looking both endpoints up is lawful. -/
theorem Search.lawful {first more : List Exchange} {found other : Except Fault (Option Point)}
    {after : Wire} (search : Search client wire origin first found middle)
    (next : Search client middle destination more other after) :
    Lawful client wire origin destination (first ++ more) := by
  refine lawful_of_lookUps ?_ ?_
  · rw [List.length_append]
    exact Nat.add_le_add search.few next.few
  · intro e member
    rcases List.mem_append.mp member with early | late
    · obtain ⟨name, call, mine⟩ := search.named e early
      exact ⟨name, call, .inl mine⟩
    · obtain ⟨name, call, mine⟩ := next.named e late
      exact ⟨name, call, .inr mine⟩

theorem Search.ends {first more : List Exchange} {start stop : Point} {after : Wire}
    (search : Search client wire origin first (.ok (some start)) middle)
    (next : Search client middle destination more (.ok (some stop)) after) :
    Ends client wire origin destination (first ++ more) start stop where
  onlyLookUps e member := by
    rcases List.mem_append.mp member with early | late
    · obtain ⟨name, call, -⟩ := search.named e early
      rw [call, Client.purpose_geocodeCall]
    · obtain ⟨name, call, -⟩ := next.named e late
      rw [call, Client.purpose_geocodeCall]
  few := by
    rw [List.length_append]
    exact Nat.add_le_add search.few next.few
  origin := (search.has start rfl).mono
  destination := search.explained.hasPoint (next.has stop rfl)

/-- The calls that finding a route sends are a lawful session. -/
theorem exists_lawful (client : Client) (origin destination : Endpoint) (wire : Wire) :
    ∃ session, wire.Carries session ((resolve client origin destination).run wire).2 ∧
      Lawful client wire origin destination session := by
  obtain ⟨first, found, middle, ran, search⟩ := exists_search client origin wire
  rw [resolve, Work.run_bind, ran]
  cases found with
  | error fault =>
      refine ⟨first, search.carried, lawful_of_lookUps ?_ ?_⟩
      · exact Nat.le_add_right_of_le search.few
      · intro e member
        obtain ⟨name, call, mine⟩ := search.named e member
        exact ⟨name, call, .inl mine⟩
  | ok start =>
      -- The destination is looked up even if there is no such place as the origin.
      obtain ⟨more, other, after, ranNext, next⟩ := exists_search client destination middle
      have carried := search.carried.append next.carried
      have lawful := search.lawful next
      simp only [Work.run_bind, ranNext]
      cases other with
      | error fault => exact ⟨first ++ more, carried, lawful⟩
      | ok stop =>
          match start, stop with
          | none, stop => exact ⟨first ++ more, carried, lawful⟩
          | some start, none => exact ⟨first ++ more, carried, lawful⟩
          | some start, some stop =>
              obtain ⟨session, outcome, final, ranAsk, tripCarried, trip⟩ :=
                exists_trip client start stop after
              refine ⟨first ++ more ++ session, ?_, trip.lawful (search.ends next) lawful⟩
              simp only [Work.run_bind, ranAsk]
              cases outcome with
              | error fault => exact carried.append tripCarried
              | ok answer => exact carried.append tripCarried

/-- Finding a route sends look-ups, at most one for each name, and then the beginning of one of
the two words.  Every call is permitted by the calls before it and their replies, and none follows
directions that were given or that were asked for twice. -/
theorem resolve_session (client : Client) (origin destination : Endpoint) (wire : Wire) :
    ∃ session : List Exchange,
      wire.Carries session ((resolve client origin destination).run wire).2 ∧
      (∃ k ≤ origin.lookUps + destination.lookUps,
        purposes session <+: List.replicate k .geocode ++ [.directions, .snap, .directions] ∨
        purposes session <+: List.replicate k .geocode ++
          [.directions, .snap, .reverse, .reverse, .directions]) ∧
      Lawful client wire origin destination session ∧
      ∀ (before : List Exchange) (e : Exchange) (rest : List Exchange),
        session = before ++ e :: rest → e.call.purpose = .directions →
        (∃ body, e.reply = .answer 200 body) ∨
          (∃ asked ∈ before, asked.call.purpose = .directions) → rest = [] := by
  obtain ⟨session, carried, lawful⟩ := exists_lawful client origin destination wire
  refine ⟨session, carried, lawful.spells, lawful, ?_⟩
  intro before e rest split directions settled
  exact lawful.final split directions settled

end

end JourneyCost.Route
