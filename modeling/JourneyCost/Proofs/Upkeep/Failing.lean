import JourneyCost.Proofs.Data.Directories
import JourneyCost.Proofs.Data.Loading
import JourneyCost.Proofs.Upkeep.Locating
import JourneyCost.Upkeep.Command

/-!
# Commands that fail

A command writes a file and clears the library in its last step, which changes nothing when it
fails.  Before that it makes directories at most.  So a command that fails leaves every file and
the library as they were, and plazas and prices are loaded as before.
-/

namespace JourneyCost.Upkeep

open Data Files

/-- What a command that fails leaves: the same files, with more directories perhaps, and the same
library. -/
structure Spared (shop shop' : Shop) : Prop where
  /-- Nothing but directories is new, and nothing is gone. -/
  files : Furnished shop.files shop'.files
  /-- The library holds what it held. -/
  library : shop'.desk.library = shop.desk.library

theorem Spared.refl (shop : Shop) : Spared shop shop := ⟨.refl _, rfl⟩

theorem Spared.trans {shop shop' shop'' : Shop} (first : Spared shop shop')
    (second : Spared shop' shop'') : Spared shop shop'' :=
  ⟨first.files.trans second.files, second.library.trans first.library⟩

instance : Trans Spared Spared Spared := ⟨Spared.trans⟩

theorem within_prepare (path : String) : Work.Within Spared (Shop.prepare path) :=
  fun shop => ⟨within_ensureDirectory (parentPath path) shop.files, rfl⟩

theorem within_pause (seconds : Float) : Work.Within Spared (Shop.pause seconds) := by
  intro shop
  obtain ⟨desk, files⟩ := run_pause seconds shop
  exact ⟨files ▸ .refl _, congrArg Trip.Desk.library desk⟩

theorem within_locateAll (client : Map.Client) (seconds : Float) (progress : Located)
    (keys : List CityKey) : Work.Within Spared (locateAll client seconds progress keys) := by
  induction keys generalizing progress with
  | nil => exact .refl
  | cons key more induction =>
      refine Work.Within.bind (fun shop => ⟨.refl _, rfl⟩) fun place => ?_
      exact (within_pause seconds).bind fun _ => induction (progress.add key place)

/-- What cannot be written changes nothing. -/
theorem failsWithin_save (path : String) (document : Json) :
    Work.FailsWithin Spared (Shop.save path document) := by
  intro shop fault shop' failed
  unfold Work.run Shop.save at failed
  split at failed
  · cases congrArg Prod.fst failed
  · obtain rfl : shop = shop' := congrArg Prod.snd failed
    exact .refl shop

theorem failsWithin_buildPrices (settings : Settings) (line : List String) :
    Work.FailsWithin Spared (buildPrices settings line) := by
  refine Work.Within.failsWithin_bind .refl fun arguments => ?_
  refine Work.Within.failsWithin_bind .refl fun shop => ?_
  refine Work.Within.failsWithin_bind .refl fun built => ?_
  refine Work.Within.failsWithin_bind (within_prepare _) fun _ => ?_
  exact (failsWithin_save _ _).bind_pure

theorem failsWithin_locateCities (settings : Settings) (line : List String) :
    Work.FailsWithin Spared (locateCities settings line) := by
  refine Work.Within.failsWithin_bind .refl fun arguments => ?_
  refine Work.Within.failsWithin_bind .refl fun shop => ?_
  refine Work.Within.failsWithin_bind .refl fun document => ?_
  refine Work.Within.failsWithin_bind .refl fun pending => ?_
  dsimp only
  split
  · exact Work.failsWithin_pure _ _
  · refine Work.Within.failsWithin_bind .refl fun client => ?_
    refine Work.Within.failsWithin_bind (within_locateAll _ _ _ _) fun progress => ?_
    exact (failsWithin_save _ _).bind_pure

theorem Command.failsWithin_run (settings : Settings) (line : List String) (command : Command) :
    Work.FailsWithin Spared (command.run settings line) := by
  cases command with
  | buildPrices => exact failsWithin_buildPrices settings line
  | locateCities => exact failsWithin_locateCities settings line

section

variable {shop shop' : Shop} {path kind : String}

/-- Whether a document from a path is kept, or the path leads to some place. -/
def IsReached (shop : Shop) (path : String) : Prop :=
  (shop.desk.library.documents.find? path).isSome ∨ ∃ place, shop.files.locate path = .ok place

theorem Spared.run_documentOrNull (spared : Spared shop shop') (reached : IsReached shop path) :
    (Library.documentOrNull shop'.files path).run shop.desk.library =
      (Library.documentOrNull shop.files path).run shop.desk.library := by
  refine run_documentOrNull_congr (reached.imp id ?_)
  rintro ⟨place, located⟩
  exact toOption_readDocument_congr (spared.files.toOption_read located)

/-- A command that fails, wherever it does, leaves every file with its bytes and makes no new one.
The library holds what it held, and loading gives what it gave: from results and documents that were
kept, and from every path that led to some place. -/
theorem Command.spared_of_failed {settings : Settings} {line : List String} {command : Command}
    {fault : Fault} (failed : (command.run settings line).run shop = (.error fault, shop')) :
    (∀ place bytes, shop'.files.entryAt? place = some (.file bytes) ↔
      shop.files.entryAt? place = some (.file bytes)) ∧
    shop'.desk.library = shop.desk.library ∧
    (∀ path, (shop.desk.library.plazas.find? path).isSome ∨ IsReached shop path →
      (Library.loadPlazas shop'.files path).run shop'.desk.library =
        (Library.loadPlazas shop.files path).run shop.desk.library) ∧
    ∀ path kind, (shop.desk.library.prices.find? (path, fuelKind kind)).isSome ∨
        IsReached shop path →
      (Library.loadPrices shop'.files path kind).run shop'.desk.library =
        (Library.loadPrices shop.files path kind).run shop.desk.library := by
  have spared := Command.failsWithin_run settings line command shop fault shop' failed
  refine ⟨fun place bytes => spared.files.file_iff, spared.library, ?_, ?_⟩
  · intro path known
    rw [spared.library]
    exact run_loadPlazas_congr (known.imp id spared.run_documentOrNull)
  · intro path kind known
    rw [spared.library]
    exact run_loadPrices_congr (known.imp id spared.run_documentOrNull)

end

/-- A wire that knows the first city of the coast, and where the next address cannot be called. -/
def brokenWire : Net.Wire :=
  ⟨[.badAddress], [], [(⟨"ola", "margao, goa, india"⟩, ⟨73.9, 15.3⟩)], true⟩

theorem known_brokenWire :
    brokenWire.known? (usualClient.placeKey (cityQuery ⟨"Goa", "Margao"⟩)) = some ⟨73.9, 15.3⟩ ∧
      brokenWire.known? (usualClient.placeKey (cityQuery ⟨"Goa", "Panaji"⟩)) = none := by
  rw [placeKey_coast.1, placeKey_coast.2]
  exact ⟨rfl, rfl⟩

theorem outcome_locateAll_of_stop {client : Map.Client} {seconds : Float} {progress : Located}
    {key : CityKey} {more : List CityKey} {shop : Shop} {fault : Fault}
    (stops : ((client.geocode (cityQuery key)).run shop.desk.wire).1 = .error fault)
    (unforgiven : isProviderFault fault = false) :
    ((locateAll client seconds progress (key :: more)).run shop).1 = .error fault := by
  refine Work.outcome_bind_of_error ?_
  change recoverWhen isProviderFault none
    ((client.geocode (cityQuery key)).run shop.desk.wire).1 = _
  rw [stops, recoverWhen, unforgiven]
  rfl

/-- The first city is found, and the lookup of the second one ends the command. -/
theorem exists_failed_broken : ∃ shop', (Command.locateCities.run {} ["--path", "d"]).run
    (shopWith coastDataset brokenWire) = (.error .malformedAddress, shop') := by
  have stops : ((usualClient.geocode (cityQuery ⟨"Goa", "Panaji"⟩)).run brokenWire).1 =
      .error .malformedAddress := by
    rw [Map.Client.run_geocode, known_brokenWire.2]
    exact congrArg Prod.fst (Map.Client.run_lookUp _ _ _)
  suffices outcome : ((locateCities {} ["--path", "d"]).run
      (shopWith coastDataset brokenWire)).1 = .error .malformedAddress from
    ⟨_, Prod.ext outcome rfl⟩
  have found : Asks usualClient ⟨"Goa", "Margao", []⟩ (shopWith coastDataset brokenWire).desk.wire
      (some ⟨73.9, 15.3⟩) brokenWire := asks_of_known known_brokenWire.1
  have held : datasetToLocate (shopWith coastDataset brokenWire).files "d" =
      .ok (.object coastStates) := datasetToLocate_shopWith read_coast
  have listed : pendingCities (.object coastStates) =
      .ok [⟨"Goa", "Margao"⟩, ⟨"Goa", "Panaji"⟩] := rfl
  have limit : (cityLimit namedDataset).toNat = 50 := by
    rw [cityLimit_namedDataset]
    rfl
  rw [locateCities, understood_namedDataset]
  refine (congrArg Prod.fst (Work.run_bind_of_ok (Work.run_ofExcept _ _))).trans ?_
  refine (congrArg Prod.fst (Work.run_bind_of_ok (Work.run_look _))).trans ?_
  refine (congrArg Prod.fst (Work.run_bind_of_ok (congrArg (·, _) held))).trans ?_
  refine (congrArg Prod.fst (Work.run_bind_of_ok (congrArg (·, _) listed))).trans ?_
  simp only [limit, List.take, List.isEmpty, Bool.false_eq_true, if_false]
  refine (congrArg Prod.fst (Work.run_bind_of_ok (congrArg (·, _) create_usualClient))).trans ?_
  refine Work.outcome_bind_of_error ?_
  refine (congrArg Prod.fst (Work.run_bind_of_ok (exists_run_of_asks found))).trans ?_
  refine (congrArg Prod.fst (Work.run_bind_of_ok
    (Prod.ext (run_pause_of_bearable bearable_namedDataset _) rfl))).trans ?_
  exact outcome_locateAll_of_stop stops rfl

/-- The command has found a city of the coast when it fails, and the file is as it was. -/
theorem Command.spared_of_failed_broken :
    ∃ shop', (Command.locateCities.run {} ["--path", "d"]).run (shopWith coastDataset brokenWire) =
        (.error .malformedAddress, shop') ∧
      shop'.files.entryAt? ["home", "d"] = some (.file (Text.toBytes coastDataset)) ∧
      (Library.loadPrices shop'.files "d" "diesel").run shop'.desk.library =
        (Library.loadPrices (shopWith coastDataset brokenWire).files "d" "diesel").run .empty := by
  obtain ⟨shop', failed⟩ := exists_failed_broken
  obtain ⟨files, -, -, prices⟩ := Command.spared_of_failed failed
  exact ⟨shop', failed, (files _ _).mpr rfl,
    prices "d" "diesel" (.inr (.inr ⟨_, locate_shopWith⟩))⟩

end JourneyCost.Upkeep
