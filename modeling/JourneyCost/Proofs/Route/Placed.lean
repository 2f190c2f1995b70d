import JourneyCost.Proofs.Fault
import JourneyCost.Proofs.Map.Remembering
import JourneyCost.Proofs.Route.Repeating

/-!
# Journeys between places

A journey between two places that can be found is the journey between their positions, made on what
the look-ups leave of the script.  There is a look-up for each place that is not known by then, and
what was sent and found before makes no difference.
-/

namespace JourneyCost.Route

open Net Map

variable {client : Client} {wire between found : Wire} {p q : Point}

/-- The calls that looking a place up takes. -/
def lookUpCalls (client : Client) (wire : Wire) (query : String) : List Call :=
  match wire.known? (client.placeKey query) with
  | some _ => []
  | none => [client.geocodeCall query]

/-- A look-up is carried on the wire, which goes on keeping places or not. -/
theorem carries_geocode (client : Client) (wire : Wire) (query : String) :
    ((client.geocode query).run wire).2.keeps = wire.keeps ∧
      ∃ looks, wire.Carries looks ((client.geocode query).run wire).2 ∧
        looks.map Exchange.call = lookUpCalls client wire query := by
  rw [Client.run_geocode, lookUpCalls]
  cases wire.known? (client.placeKey query) with
  | some place => exact ⟨rfl, [], .refl wire, rfl⟩
  | none =>
      rw [Client.run_lookUp]
      exact ⟨Client.keeps_noting _, [⟨client.geocodeCall query, wire.nextReply⟩],
        Client.carries_noting _ _ (Wire.carries_afterCall wire _), rfl⟩

/-- Once both ends have positions, how they got them makes no difference. -/
theorem run_resolve_of_located {start stop : Endpoint}
    (first : (locate client start).run wire = (.ok (some p), between))
    (second : (locate client stop).run between = (.ok (some q), found)) :
    (resolve client start stop).run wire =
      (resolve client (.position p) (.position q)).run found := by
  rw [resolve, Work.run_bind_of_ok first, Work.run_bind_of_ok second]
  rfl

/-- A journey between two places that are found, be it on the wire or in the first replies of the
script, has the outcome of the journey between their positions on the rest of the script, whatever
was sent and found before that one.  After the look-ups it sends the same calls. -/
theorem resolve_as_positions {start stop : String}
    (first : (client.geocode start).run wire = (.ok (some p), between))
    (second : (client.geocode stop).run between = (.ok (some q), found)) :
    ∃ looks : List Exchange, wire.Carries looks found ∧
      looks.map Exchange.call =
        lookUpCalls client wire start ++ lookUpCalls client between stop ∧
      ∀ (sent : List Call) (places : List (PlaceKey × Point)),
        let rest : Wire := ⟨wire.replies.drop looks.length, sent, places, wire.keeps⟩
        let named := (resolve client (.named start) (.named stop)).run wire
        let placed := (resolve client (.position p) (.position q)).run rest
        named.1 = placed.1 ∧
          ∃ calls, named.2.sent = wire.sent ++ looks.map Exchange.call ++ calls ∧
            placed.2.sent = sent ++ calls := by
  obtain ⟨keeps, looks, carried, asked⟩ := carries_geocode client wire start
  obtain ⟨keepsNext, more, carriedNext, askedNext⟩ := carries_geocode client between stop
  rw [first] at keeps carried
  rw [second] at keepsNext carriedNext
  have whole := carried.append carriedNext
  refine ⟨looks ++ more, whole, by rw [List.map_append, asked, askedNext], fun sent places => ?_⟩
  have twin : Wire.Twin False wire.keeps found.sent sent found
      ⟨wire.replies.drop (looks ++ more).length, sent, places, wire.keeps⟩ :=
    ⟨whole.replies, keepsNext.trans keeps, rfl, False.elim, [], by simp, by simp⟩
  have same : (resolve client (.named start) (.named stop)).run wire =
      (resolve client (.position p) (.position q)).run found := run_resolve_of_located first second
  simp only [same]
  obtain ⟨outcome, after⟩ :=
    respects_resolve client (.inr ⟨p, q, rfl, rfl⟩) found _ twin
  refine ⟨outcome, ?_⟩
  rw [← whole.sent]
  exact after.sent

/-- Delhi is known in any spelling, and Agra is looked up, before a connection is lost. -/
theorem resolve_as_positions_agra :
    let client : Client := ⟨.ola, "https://api.olamaps.io", "key", .null, {}⟩
    let agra := Text.toBytes
      "\x7b\"features\":[\x7b\"geometry\":\x7b\"coordinates\":[78.0,27.5]\x7d\x7d]\x7d"
    let delhi : Point := ⟨77.2, 28.6⟩
    let wire : Wire := ⟨[.answer 200 agra, .dropped "ReadTimeout"], [],
      [(client.placeKey "Delhi", delhi)], true⟩
    (client.geocode " DELHI").run wire = (.ok (some delhi), wire) ∧
      ∃ looks : List Exchange, looks.map Exchange.call = [client.geocodeCall "Agra"] ∧
        ∀ sent places,
          ((resolve client (.named " DELHI") (.named "Agra")).run wire).1 =
            ((resolve client (.position delhi) (.position ⟨78, 27.5⟩)).run
              ⟨[.dropped "ReadTimeout"], sent, places, true⟩).1 := by
  intro client agra delhi wire
  have known : wire.known? (client.placeKey " DELHI") = some delhi := by decide +kernel
  have unknown : wire.known? (client.placeKey "Agra") = none := by decide +kernel
  have first : (client.geocode " DELHI").run wire = (.ok (some delhi), wire) := by
    rw [Client.run_geocode, known]
  have place : client.placeIn (.answer 200 agra) = .ok (some ⟨78, 27.5⟩) :=
    toOption_eq_some_iff.mp (by decide +kernel)
  have second : (client.geocode "Agra").run wire =
      (.ok (some ⟨78, 27.5⟩), ((client.geocode "Agra").run wire).2) := by
    refine Prod.ext ?_ rfl
    rw [Client.run_geocode, unknown, Client.run_lookUp]
    exact place
  obtain ⟨looks, -, asked, same⟩ := resolve_as_positions first second
  have calls : lookUpCalls client wire " DELHI" ++ lookUpCalls client wire "Agra" =
      [client.geocodeCall "Agra"] := by
    rw [lookUpCalls, lookUpCalls, known, unknown, List.nil_append]
  have one : looks.length = 1 := by
    rw [← List.length_map Exchange.call, asked, calls, List.length_singleton]
  refine ⟨first, looks, asked.trans calls, fun sent places => ?_⟩
  have outcome := (same sent places).1
  rw [one] at outcome
  exact outcome

end JourneyCost.Route
