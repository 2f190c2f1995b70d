import JourneyCost.Proofs.Fuel.Cities
import JourneyCost.Proofs.Map.Reading
import JourneyCost.Proofs.Upkeep.Building
import JourneyCost.Upkeep.LocateCities

/-!
# Looking cities up

The command that locates cities asks the map service for the first cities without a position, each
one once and in the order of the data set.  What it reports are the numbers of cities for which the
service gave a point and for which it gave none.
-/

namespace JourneyCost.Upkeep

open Data Map Net
open Fuel (City cities citiesOf)

/-- The path of the data set to complete. -/
def datasetPath (settings : Settings) (arguments : Arguments) : String :=
  (arguments.get? "--path").getD settings.fuelPath

/-- Whether a city has no position: the member is missing, or empty in one of the ways in which a
value can be. -/
def lacksPosition (city : City) : Bool := !(city.values.get "location").isTruthy

/-- The name of a city in its state. -/
def keyOf (city : City) : CityKey := ⟨city.state, city.name⟩

/-- The cities that are looked up: the first ones without a position, in the order of the data
set. -/
def wanted (arguments : Arguments) (states : Fields) : List City :=
  ((cities states).filter lacksPosition).take (cityLimit arguments).toNat

theorem map_filter_isPending (state : String) (inside : Fields) :
    (inside.filter fun city => isPending city.2).map (fun city => CityKey.mk state city.1) =
      ((citiesOf (state, .object inside)).filter lacksPosition).map keyOf := by
  induction inside with
  | nil => rfl
  | cons city rest induction =>
      obtain ⟨name, value⟩ := city
      rw [Fuel.citiesOf_object_cons, List.filter_append, List.map_append, ← induction,
        List.filter_cons]
      cases value with
      | object values =>
          have pending : isPending (.object values) = lacksPosition ⟨state, name, values⟩ := rfl
          cases lacks : lacksPosition ⟨state, name, values⟩ <;>
            simp [pending, lacks, Json.fields?, keyOf]
      | null | bool | int | float | text | list => rfl

theorem keys_of_pendingIn {state : String × Json} {keys : List CityKey}
    (listed : pendingIn state = .ok keys) :
    keys = ((citiesOf state).filter lacksPosition).map keyOf := by
  obtain ⟨state, value⟩ := state
  cases value with
  | object inside =>
      rw [← map_filter_isPending]
      exact (Except.ok.inj listed).symm
  | null | bool | int | float | text | list => exact absurd listed (by simp [pendingIn])

/-- What the command lists are the cities without a position. -/
theorem exists_of_pendingCities {document : Json} {keys : List CityKey}
    (listed : pendingCities document = .ok keys) :
    ∃ states, document = .object states ∧
      keys = ((cities states).filter lacksPosition).map keyOf := by
  cases document with
  | null | bool | int | float | text | list => exact absurd listed (by simp [pendingCities])
  | object states =>
      refine ⟨states, rfl, ?_⟩
      obtain ⟨lists, each, joined⟩ := bind_eq_ok.mp listed
      obtain rfl : lists.flatten = keys := Except.ok.inj joined
      have matched := (forall₂_of_mapM each).imp fun _ _ => keys_of_pendingIn
      clear each joined listed
      induction matched with
      | nil => rfl
      | cons here _ induction =>
          rw [List.flatten_cons, induction, here, Fuel.cities_cons, List.filter_append,
            List.map_append]

/-- One lookup of a city: the service gives a point or none, or it fails, which counts as none. -/
inductive Asks (client : Client) (city : City) (wire : Wire) : Option Point → Wire → Prop where
  /-- The lookup is answered. -/
  | answered {place : Option Point} {after : Wire}
    (answer : (client.geocode (cityQuery (keyOf city))).run wire = (.ok place, after)) :
    Asks client city wire place after
  /-- The lookup fails. -/
  | failed {message reason : String} {status : Option Int} {after : Wire}
    (refused : (client.geocode (cityQuery (keyOf city))).run wire =
      (.error (.providerFailed message status reason), after)) :
    Asks client city wire none after

/-- A place that was found before is found again. -/
theorem asks_of_known {client : Client} {city : City} {wire : Wire} {place : Point}
    (known : wire.known? (client.placeKey (cityQuery (keyOf city))) = some place) :
    Asks client city wire (some place) wire := by
  refine .answered ?_
  rw [Client.run_geocode, known]

/-- Without a reply a place that was not found before is not found. -/
theorem asks_of_silence {client : Client} {city : City} {wire : Wire}
    (unknown : wire.known? (client.placeKey (cityQuery (keyOf city))) = none)
    (silence : wire.replies = []) :
    Asks client city wire none
      (wire.afterCall (client.geocodeCall (cityQuery (keyOf city)))) := by
  have reply : wire.nextReply = .dropped "ConnectError" := by
    rw [Wire.nextReply, silence]
    rfl
  have refused : (client.geocode (cityQuery (keyOf city))).run wire =
      (.error (.providerFailed (client.provider.name ++ " request failed: " ++ "ConnectError") none
        (client.provider.name ++ "_transport_error")),
        wire.afterCall (client.geocodeCall (cityQuery (keyOf city)))) := by
    rw [Client.run_geocode, unknown]
    simp only [Client.run_lookUp, reply]
    rfl
  exact .failed refused

/-- One lookup for each city, each over the wire as the one before left it. -/
inductive LooksUp (client : Client) : Wire → List (City × Option Point) → Wire → Prop where
  /-- No city is left. -/
  | nil (wire : Wire) : LooksUp client wire [] wire
  /-- The first city is looked up before the others. -/
  | cons {wire between after : Wire} {city : City} {place : Option Point}
    {more : List (City × Option Point)} (first : Asks client city wire place between)
    (rest : LooksUp client between more after) :
    LooksUp client wire ((city, place) :: more) after

theorem Asks.unique {client : Client} {city : City} {wire after after' : Wire}
    {place place' : Option Point} (first : Asks client city wire place after)
    (second : Asks client city wire place' after') : place = place' ∧ after = after' := by
  cases first with
  | answered answer =>
      cases second with
      | answered answer' => simpa using answer.symm.trans answer'
      | failed refused => exact absurd (answer.symm.trans refused) (by simp)
  | failed refused =>
      cases second with
      | answered answer => exact absurd (refused.symm.trans answer) (by simp)
      | failed refused' => exact ⟨rfl, (Prod.mk.inj (refused.symm.trans refused')).2⟩

/-- What is found depends only on the client, the wire and the cities. -/
theorem LooksUp.unique {client : Client} {wire after after' : Wire}
    {answered answered' : List (City × Option Point)} (first : LooksUp client wire answered after)
    (second : LooksUp client wire answered' after')
    (same : answered.map Prod.fst = answered'.map Prod.fst) : answered = answered' := by
  induction first generalizing answered' with
  | nil wire =>
      cases second with
      | nil => rfl
      | cons => cases same
  | cons asks rest induction =>
      cases second with
      | nil => cases same
      | cons asks' rest' =>
          obtain ⟨rfl, sameMore⟩ := List.cons.inj same
          obtain ⟨rfl, rfl⟩ := asks.unique asks'
          rw [induction rest' sameMore]

/-- The progress after several cities. -/
def Located.addAll (progress : Located) (answered : List (City × Option Point)) : Located :=
  answered.foldl (fun progress answer => progress.add (keyOf answer.1) answer.2) progress

/-- A data set with the positions of the cities for which there was a point. -/
def locatedDocument (document : Json) (answered : List (City × Option Point)) : Json :=
  (Located.addAll ⟨document, 0, 0⟩ answered).document

theorem run_pause (seconds : Float) (shop : Shop) :
    ((Shop.pause seconds).run shop).2.desk = shop.desk ∧
      ((Shop.pause seconds).run shop).2.files = shop.files := by
  unfold Shop.pause Work.run
  split
  · exact ⟨rfl, rfl⟩
  · split <;> exact ⟨rfl, rfl⟩

/-- A pause is made if it is not too long. -/
theorem run_pause_of_bearable {seconds : Float} (bearable : Shop.isEndless seconds = false)
    (shop : Shop) : ((Shop.pause seconds).run shop).1 = .ok () := by
  unfold Shop.pause Work.run
  rw [bearable]
  split <;> rfl

theorem asks_of_run {client : Client} {city : City} {shop shop' : Shop} {place : Option Point}
    (ran : (Work.onPart Shop.desk (fun shop desk => { shop with desk := desk })
      (Trip.Desk.onWire (Work.recover isProviderFault none
        (client.geocode (cityQuery (keyOf city)))))).run shop = (.ok place, shop')) :
    Asks client city shop.desk.wire place shop'.desk.wire ∧ shop'.files = shop.files ∧
      shop'.desk.library = shop.desk.library := by
  obtain ⟨outcome, rfl⟩ := Prod.mk.inj ran
  refine ⟨?_, rfl, rfl⟩
  change recoverWhen isProviderFault none
    ((client.geocode (cityQuery (keyOf city))).run shop.desk.wire).1 = .ok place at outcome
  rcases asked : (client.geocode (cityQuery (keyOf city))).run shop.desk.wire with ⟨answer, after⟩
  rw [asked] at outcome
  have left : ((client.geocode (cityQuery (keyOf city))).run shop.desk.wire).2 = after := by
    rw [asked]
  cases answer with
  | ok found =>
      obtain rfl := Except.ok.inj outcome
      exact .answered (asked.trans (by rw [← left]; rfl))
  | error fault =>
      cases fault with
      | providerFailed message status reason =>
          obtain rfl := Except.ok.inj outcome
          exact .failed (asked.trans (by rw [← left]; rfl))
      | _ => simp [recoverWhen, isProviderFault] at outcome

/-- A run over the cities is one lookup for each of them, and changes nothing but the wire and the
pauses. -/
theorem exists_of_run_locateAll {client : Client} {seconds : Float} {wantedCities : List City}
    {progress done : Located} {shop shop' : Shop}
    (ran : (locateAll client seconds progress (wantedCities.map keyOf)).run shop =
      (.ok done, shop')) :
    ∃ answered, answered.map Prod.fst = wantedCities ∧
      LooksUp client shop.desk.wire answered shop'.desk.wire ∧
      done = progress.addAll answered ∧ shop'.files = shop.files ∧
      shop'.desk.library = shop.desk.library := by
  induction wantedCities generalizing progress shop with
  | nil =>
      obtain ⟨same, rfl⟩ := Prod.mk.inj ran
      exact ⟨[], rfl, .nil _, (Except.ok.inj same).symm, rfl, rfl⟩
  | cons city more induction =>
      rw [List.map_cons, locateAll] at ran
      obtain ⟨place, asked, first, ran⟩ := Work.run_bind_eq_ok.mp ran
      obtain ⟨_, paused, pause, ran⟩ := Work.run_bind_eq_ok.mp ran
      obtain ⟨asks, files, library⟩ := asks_of_run first
      obtain ⟨desk, kept⟩ := run_pause seconds asked
      rw [pause] at desk kept
      obtain ⟨answered, which, lookups, rfl, sameFiles, sameLibrary⟩ := induction ran
      rw [desk] at lookups sameLibrary
      rw [kept] at sameFiles
      exact ⟨(city, place) :: answered, congrArg (city :: ·) which, .cons asks lookups, rfl,
        sameFiles.trans files, sameLibrary.trans library⟩

theorem exists_run_of_asks {client : Client} {city : City} {shop : Shop} {place : Option Point}
    {after : Wire} (asks : Asks client city shop.desk.wire place after) :
    (Work.onPart Shop.desk (fun shop desk => { shop with desk := desk })
      (Trip.Desk.onWire (Work.recover isProviderFault none
        (client.geocode (cityQuery (keyOf city)))))).run shop =
      (.ok place, { shop with desk := { shop.desk with wire := after } }) := by
  change (recoverWhen isProviderFault none
      ((client.geocode (cityQuery (keyOf city))).run shop.desk.wire).1,
    { shop with desk := { shop.desk with
      wire := ((client.geocode (cityQuery (keyOf city))).run shop.desk.wire).2 } }) = _
  cases asks with
  | answered answer =>
      rw [answer]
      rfl
  | failed refused =>
      rw [refused]
      rfl

/-- Lookups that end with a point, with none, or in a failure of the service make a run, with pauses
that are not too long. -/
theorem exists_run_of_looksUp {client : Client} {wire after : Wire}
    {answered : List (City × Option Point)} (lookups : LooksUp client wire answered after)
    {seconds : Float} (bearable : Shop.isEndless seconds = false) (progress : Located) {shop : Shop}
    (starts : shop.desk.wire = wire) :
    ∃ shop', (locateAll client seconds progress (answered.map (keyOf ·.1))).run shop =
      (.ok (progress.addAll answered), shop') ∧ shop'.files = shop.files := by
  induction lookups generalizing progress shop with
  | nil wire => exact ⟨shop, rfl, rfl⟩
  | @cons wire between after city place more first rest induction =>
      subst starts
      obtain ⟨desk, kept⟩ :=
        run_pause seconds { shop with desk := { shop.desk with wire := between } }
      obtain ⟨shop', ran, files⟩ :=
        induction (progress.add (keyOf city) place) (congrArg Trip.Desk.wire desk)
      refine ⟨shop', ?_, files.trans kept⟩
      rw [List.map_cons, locateAll]
      exact Work.run_bind_eq_ok.mpr ⟨place, _, exists_run_of_asks first,
        Work.run_bind_eq_ok.mpr ⟨(), _, Prod.ext (run_pause_of_bearable bearable _) rfl, ran⟩⟩

/-- The counts are the numbers of cities for which there was a point and for which there was
none. -/
theorem counts_addAll (progress : Located) (answered : List (City × Option Point)) :
    (progress.addAll answered).found = progress.found + answered.countP (·.2.isSome) ∧
      (progress.addAll answered).failed = progress.failed + answered.countP (·.2.isNone) := by
  induction answered generalizing progress with
  | nil => exact ⟨rfl, rfl⟩
  | cons answer more induction =>
      obtain ⟨found, failed⟩ := induction (progress.add (keyOf answer.1) answer.2)
      obtain ⟨city, place⟩ := answer
      rw [Located.addAll, List.foldl_cons]
      rw [Located.addAll] at found failed
      rw [found, failed, List.countP_cons, List.countP_cons]
      cases place <;> simp [Located.add, Nat.add_assoc, Nat.add_comm]

theorem addAll_eq (document : Json) (answered : List (City × Option Point)) :
    Located.addAll ⟨document, 0, 0⟩ answered = ⟨locatedDocument document answered,
      answered.countP (·.2.isSome), answered.countP (·.2.isNone)⟩ := by
  obtain ⟨found, failed⟩ := counts_addAll ⟨document, 0, 0⟩ answered
  have found := found.trans (Nat.zero_add _)
  have failed := failed.trans (Nat.zero_add _)
  rw [locatedDocument, ← found, ← failed]

/-! ## A run of the command -/

/-- What a run of the command that completes prints and leaves behind. -/
inductive LocatesIn (settings : Settings) (arguments : Arguments) (shop : Shop) (states : Fields) :
    String → Shop → Prop where
  /-- There is no city to look up. -/
  | idle (nothing : wanted arguments states = []) :
    LocatesIn settings arguments shop states
      (printed arguments .warning "No cities to geocode") shop
  /-- The cities are looked up, and the data set is written. -/
  | located {client : Client} {answered : List (City × Option Point)} {shop' : Shop}
    (something : wanted arguments states ≠ [])
    (created : Client.create settings (arguments.get? "--provider") = .ok client)
    (which : answered.map Prod.fst = wanted arguments states)
    (lookups : LooksUp client shop.desk.wire answered shop'.desk.wire)
    (written : shop.files.write (normalPath (datasetPath settings arguments))
      (Text.toBytes (locatedDocument (.object states) answered).pretty) = .ok shop'.files)
    (library : shop'.desk.library = .empty) :
    LocatesIn settings arguments shop states
      (printed arguments .good (locateReport ⟨locatedDocument (.object states) answered,
        answered.countP (·.2.isSome), answered.countP (·.2.isNone)⟩ (cityLimit arguments))) shop'

theorem exists_of_datasetToLocate {files : Files} {path : String} {document : Json}
    (found : datasetToLocate files path = .ok document) :
    readDocument files (normalPath path) = .ok document := by
  obtain ⟨there, -, found⟩ := bind_eq_ok.mp found
  cases there with
  | true => exact found
  | false => exact absurd found (by simp [throw, throwThe, MonadExceptOf.throw])

/-- What the command does once it has the data set. -/
def locateWanted (settings : Settings) (arguments : Arguments) (states : Fields) :
    Work Shop String := do
  if ((wanted arguments states).map keyOf).isEmpty then
    return printed arguments .warning "No cities to geocode"
  let client ← Work.ofExcept (Client.create settings (arguments.get? "--provider"))
  let progress ← locateAll client (pauseLength arguments) ⟨.object states, 0, 0⟩
    ((wanted arguments states).map keyOf)
  Shop.save (datasetPath settings arguments) progress.document
  return printed arguments .good (locateReport progress (cityLimit arguments))

/-- The command completes if there is a data set whose cities can be listed, and the rest does. -/
theorem run_locateCities_eq_ok {settings : Settings} {line : List String} {arguments : Arguments}
    {shop shop' : Shop} {text : String}
    (understood : Arguments.read locateOptions line = .ok arguments) :
    (locateCities settings line).run shop = (.ok text, shop') ↔
      ∃ states, datasetToLocate shop.files (datasetPath settings arguments) = .ok (.object states) ∧
        (∃ keys, pendingCities (.object states) = .ok keys) ∧
        (locateWanted settings arguments states).run shop = (.ok text, shop') := by
  have goesThrough {states : Fields} {keys : List CityKey}
      (listed : pendingCities (.object states) = .ok keys) :
      keys.take (cityLimit arguments).toNat = (wanted arguments states).map keyOf := by
    obtain ⟨_, same, rfl⟩ := exists_of_pendingCities listed
    obtain rfl := Json.object.inj same
    exact List.map_take.symm
  rw [locateCities, understood]
  constructor
  · intro completed
    obtain ⟨taken, same, completed⟩ := Work.run_ofExcept_bind_eq_ok.mp completed
    obtain rfl : arguments = taken := Except.ok.inj same
    obtain ⟨looked, between, same, completed⟩ := Work.run_bind_eq_ok.mp completed
    obtain ⟨rfl, rfl⟩ : shop = looked ∧ shop = between := by simpa using same
    obtain ⟨document, held, completed⟩ := Work.run_ofExcept_bind_eq_ok.mp completed
    obtain ⟨keys, listed, completed⟩ := Work.run_ofExcept_bind_eq_ok.mp completed
    obtain ⟨states, rfl, -⟩ := exists_of_pendingCities listed
    rw [goesThrough listed] at completed
    exact ⟨states, held, ⟨keys, listed⟩, completed⟩
  · rintro ⟨states, held, ⟨keys, listed⟩, completed⟩
    refine Work.run_ofExcept_bind_eq_ok.mpr ⟨arguments, rfl, ?_⟩
    refine Work.run_bind_eq_ok.mpr ⟨shop, shop, rfl, ?_⟩
    refine Work.run_ofExcept_bind_eq_ok.mpr ⟨_, held, ?_⟩
    refine Work.run_ofExcept_bind_eq_ok.mpr ⟨_, listed, ?_⟩
    rwa [goesThrough listed]

theorem locatesIn_of_run {settings : Settings} {line : List String} {arguments : Arguments}
    {shop shop' : Shop} {text : String}
    (understood : Arguments.read locateOptions line = .ok arguments)
    (completed : (locateCities settings line).run shop = (.ok text, shop')) :
    ∃ states, readDocument shop.files (normalPath (datasetPath settings arguments)) =
        .ok (.object states) ∧ LocatesIn settings arguments shop states text shop' := by
  obtain ⟨states, held, -, completed⟩ := (run_locateCities_eq_ok understood).mp completed
  refine ⟨states, exists_of_datasetToLocate held, ?_⟩
  unfold locateWanted at completed
  by_cases nothing : wanted arguments states = []
  · rw [nothing, List.map_nil, List.isEmpty_nil, if_pos rfl] at completed
    obtain ⟨same, rfl⟩ := Prod.mk.inj completed
    rw [← Except.ok.inj same]
    exact .idle nothing
  · rw [if_neg (by simpa using nothing)] at completed
    obtain ⟨client, created, completed⟩ := Work.run_ofExcept_bind_eq_ok.mp completed
    obtain ⟨progress, asked, located, completed⟩ := Work.run_bind_eq_ok.mp completed
    obtain ⟨_, _, saved, completed⟩ := Work.run_bind_eq_ok.mp completed
    obtain ⟨answered, which, lookups, rfl, files, -⟩ := exists_of_run_locateAll located
    obtain ⟨files', written, rfl⟩ := run_save_eq_ok.mp saved
    obtain ⟨same, rfl⟩ := Prod.mk.inj completed
    rw [← Except.ok.inj same, addAll_eq]
    rw [files] at written
    exact .located nothing created which lookups written rfl

/-- The command changes nothing if there is no city to look up. -/
theorem run_locateCities_of_idle {settings : Settings} {line : List String}
    {arguments : Arguments} {shop : Shop} {states : Fields} {keys : List CityKey}
    (understood : Arguments.read locateOptions line = .ok arguments)
    (held : datasetToLocate shop.files (datasetPath settings arguments) = .ok (.object states))
    (listed : pendingCities (.object states) = .ok keys) (nothing : wanted arguments states = []) :
    (locateCities settings line).run shop =
      (.ok (printed arguments .warning "No cities to geocode"), shop) := by
  refine (run_locateCities_eq_ok understood).mpr ⟨states, held, ⟨keys, listed⟩, ?_⟩
  rw [locateWanted, nothing]
  rfl

/-- The command completes if its lookups do, the pauses are not too long, and the file can be
written. -/
theorem exists_run_locateCities {settings : Settings} {line : List String} {arguments : Arguments}
    {shop : Shop} {states : Fields} {keys : List CityKey} {client : Client} {after : Wire}
    {answered : List (City × Option Point)} {files : Files}
    (understood : Arguments.read locateOptions line = .ok arguments)
    (held : datasetToLocate shop.files (datasetPath settings arguments) = .ok (.object states))
    (listed : pendingCities (.object states) = .ok keys)
    (something : wanted arguments states ≠ [])
    (created : Client.create settings (arguments.get? "--provider") = .ok client)
    (which : answered.map Prod.fst = wanted arguments states)
    (lookups : LooksUp client shop.desk.wire answered after)
    (bearable : Shop.isEndless (pauseLength arguments) = false)
    (written : shop.files.write (normalPath (datasetPath settings arguments))
      (Text.toBytes (locatedDocument (.object states) answered).pretty) = .ok files) :
    ∃ text shop', (locateCities settings line).run shop = (.ok text, shop') := by
  obtain ⟨asked, located, sameFiles⟩ :=
    exists_run_of_looksUp lookups bearable ⟨.object states, 0, 0⟩ rfl
  have keys : answered.map (keyOf ·.1) = (wanted arguments states).map keyOf := by
    rw [← which, List.map_map]
    rfl
  rw [keys] at located
  rw [← sameFiles] at written
  refine ⟨printed arguments .good (locateReport (Located.addAll ⟨.object states, 0, 0⟩ answered)
    (cityLimit arguments)),
    { asked with files := files, desk := { asked.desk with library := .empty } }, ?_⟩
  refine (run_locateCities_eq_ok understood).mpr ⟨states, held, ⟨_, listed⟩, ?_⟩
  rw [locateWanted, if_neg (by simpa using something)]
  refine Work.run_ofExcept_bind_eq_ok.mpr ⟨client, created, ?_⟩
  refine Work.run_bind_eq_ok.mpr ⟨_, asked, located, ?_⟩
  exact Work.run_bind_eq_ok.mpr ⟨(), _, run_save_eq_ok.mpr ⟨files, written, rfl⟩, rfl⟩

/-- A shop with a data set in the file `d`. -/
def shopWith (dataset : String) (wire : Wire) : Shop :=
  ⟨⟨[(Files.home, .directory), (["home", "d"], .file (Text.toBytes dataset))]⟩,
    ⟨wire, .empty⟩, []⟩

/-- The values of the options that name the data set. -/
def namedDataset : Arguments := ⟨[("--path", "d")], []⟩

/-- The client that the settings ask for. -/
def usualClient : Client := ⟨.ola, dropSlashes "https://api.olamaps.io", "", .null, {}⟩

theorem understood_namedDataset :
    Arguments.read locateOptions ["--path", "d"] = .ok namedDataset := by
  decide +kernel

theorem bearable_namedDataset : Shop.isEndless (pauseLength namedDataset) = false := by
  decide +kernel

theorem path_namedDataset : normalPath (datasetPath {} namedDataset) = "d" := normalPath_market.2.1

theorem create_usualClient : Client.create {} none = .ok usualClient := by
  have named : (Provider.ofName "ola").toOption = some .ola := by decide +kernel
  change (Provider.ofName "ola" >>= _ : Except Fault Client) = _
  rw [toOption_eq_some_iff.mp named]
  rfl

section

variable {dataset : String} {wire after : Wire} {states : Fields} {keys : List CityKey}
  {answered : List (City × Option Point)}

theorem locate_shopWith : (shopWith dataset wire).files.locate "d" = .ok ["home", "d"] := by
  rw [Files.locate, split_market.2.1]
  rfl

theorem readText_shopWith : (shopWith dataset wire).files.readText "d" = .ok dataset := by
  refine Files.readText_of_read ?_
  rw [Files.read, Files.find, locate_shopWith]
  rfl

theorem datasetToLocate_shopWith (read : Json.read dataset = .ok (.object states)) :
    datasetToLocate (shopWith dataset wire).files "d" = .ok (.object states) := by
  have there : (shopWith dataset wire).files.has "d" = .ok true := by
    rw [Files.has, Files.find, locate_shopWith]
    rfl
  rw [datasetToLocate, normalPath_market.2.1, there, ok_bind, if_pos rfl, readDocument_eq,
    readText_shopWith, ok_bind, read]

theorem exists_run_shopWith (read : Json.read dataset = .ok (.object states))
    (listed : pendingCities (.object states) = .ok keys)
    (something : wanted namedDataset states ≠ [])
    (which : answered.map Prod.fst = wanted namedDataset states)
    (lookups : LooksUp usualClient wire answered after) :
    ∃ text shop', (locateCities {} ["--path", "d"]).run (shopWith dataset wire) =
      (.ok text, shop') := by
  have written (bytes : Bytes) :
      (shopWith dataset wire).files.write (normalPath (datasetPath {} namedDataset)) bytes =
        .ok ((shopWith dataset wire).files.put ["home", "d"] (.file bytes)) := by
    rw [path_namedDataset, Files.write, locate_shopWith]
    rfl
  exact exists_run_locateCities understood_namedDataset (datasetToLocate_shopWith read) listed
    something create_usualClient which lookups bearable_namedDataset (written _)

end

end JourneyCost.Upkeep
