import JourneyCost.Proofs.Data.Faithful
import JourneyCost.Proofs.Data.Written
import JourneyCost.Proofs.Fuel.Reading
import JourneyCost.Proofs.Json.Nesting
import JourneyCost.Proofs.Json.Refusal
import JourneyCost.Proofs.Toll.Reading

/-!
# Data sets that cannot be loaded

A file that cannot be read, or holds something else, gives no plazas and no prices.  A record or a
city that cannot be used concerns no other.  The one exception is a number that no float can hold:
it leaves the whole data set unloaded, unless the result of an earlier loading was kept.
-/

namespace JourneyCost.Data

variable {fault : Fault}

theorem isUnavailable_of_step {here : Place} {name : String}
    (lost : Files.step here name = .error fault) : fault.isUnavailable = true := by
  unfold Files.step at lost
  split at lost
  · cases lost
  · split at lost
    · cases lost
    · split at lost
      · obtain rfl := Except.error.inj lost
        rfl
      · cases lost

theorem isUnavailable_of_walk {files : Files} {here : Place} {names : List String}
    (lost : files.walk here names = .error fault) : fault.isUnavailable = true := by
  induction names generalizing here with
  | nil => cases lost
  | cons name more induction =>
      unfold Files.walk at lost
      split at lost
      · rcases bind_eq_error.mp lost with long | ⟨next, -, later⟩
        · exact isUnavailable_of_step long
        · exact induction later
      · obtain rfl := Except.error.inj lost
        rfl
      · obtain rfl := Except.error.inj lost
        rfl

theorem holdsNothing_of_locate {files : Files} {path : String}
    (lost : files.locate path = .error fault) : holdsNothing fault = true := by
  unfold Files.locate at lost
  split at lost
  · obtain rfl := Except.error.inj lost
    rfl
  · split at lost
    · obtain rfl := Except.error.inj lost
      rfl
    · split at lost
      · obtain rfl := Except.error.inj lost
        rfl
      · simp [holdsNothing, isUnavailable_of_walk lost]

theorem holdsNothing_of_find {files : Files} {path : String}
    (lost : files.find path = .error fault) : holdsNothing fault = true := by
  rcases bind_eq_error.mp lost with unlocated | ⟨place, -, absent⟩
  · exact holdsNothing_of_locate unlocated
  · split at absent
    · cases absent
    · obtain rfl := Except.error.inj absent
      rfl

theorem holdsNothing_of_readText {files : Files} {path : String}
    (unread : files.readText path = .error fault) : holdsNothing fault = true := by
  rcases bind_eq_error.mp unread with unopened | ⟨bytes, -, noText⟩
  · rcases bind_eq_error.mp unopened with lost | ⟨entry, -, noFile⟩
    · exact holdsNothing_of_find lost
    · split at noFile
      · cases noFile
      · obtain rfl := Except.error.inj noFile
        rfl
  · split at noText
    · cases noText
    · obtain rfl := Except.error.inj noText
      rfl

/-- Whatever keeps a document from being read makes the file hold nothing. -/
theorem holdsNothing_of_readDocument {files : Files} {path : String}
    (unread : readDocument files path = .error fault) : holdsNothing fault = true := by
  rcases bind_eq_error.mp unread with noText | ⟨s, -, refused⟩
  · exact holdsNothing_of_readText noText
  · simp [holdsNothing, (Json.isRefusal_of_read refused).isMalformed]

/-- The document that a loading starts from: the one that the library kept, or else the one in the
file, if there is one. -/
def Library.source? (library : Library) (files : Files) (path : String) : Option Json :=
  (library.documents.find? path).or (readDocument files path).toOption

theorem run_documentOrNull (files : Files) (path : String) (library : Library) :
    ((Library.documentOrNull files path).run library).1 =
      .ok ((library.source? files path).getD .null) := by
  unfold Library.documentOrNull Library.source?
  rw [Work.run_recover, Library.run_document]
  cases library.documents.find? path with
  | some document => rfl
  | none =>
      cases read : readDocument files path with
      | ok document => rfl
      | error cause => simp [recoverWhen, holdsNothing_of_readDocument read, Except.toOption]

/-- Work that goes on to make a result and keep it gives what was made. -/
theorem run_keep {α β : Type} {work : Work Library α} {library : Library} {value : α}
    (done : (work.run library).1 = .ok value) (make : α → Except Fault β)
    (put : β → Library → Library) :
    ((do
      let value ← work
      let made ← Work.ofExcept (make value)
      Work.change (put made)
      return made : Work Library β).run library).1 = make value := by
  rw [Work.run_bind]
  rcases outcome : work.run library with ⟨result, between⟩
  rw [outcome] at done
  obtain rfl : result = .ok value := done
  simp only [Work.run_bind, Work.run_ofExcept]
  cases make value <;> rfl

theorem run_loadPlazas {files : Files} {path : String} {library : Library}
    (unkept : library.plazas.find? path = none) :
    ((Library.loadPlazas files path).run library).1 =
      tollPlazas ((library.source? files path).getD .null) := by
  unfold Library.loadPlazas
  rw [Work.run_bind, Work.run_look]
  simp only [unkept]
  exact run_keep (run_documentOrNull files path library) _ _

theorem run_loadPlazas_of_kept {files : Files} {path : String} {library : Library}
    {plazas : List Toll.Plaza} (kept : library.plazas.find? path = some plazas) :
    ((Library.loadPlazas files path).run library).1 = .ok plazas := by
  unfold Library.loadPlazas
  rw [Work.run_bind, Work.run_look]
  simp only [kept]
  rfl

theorem run_loadPrices {files : Files} {path kind : String} {library : Library}
    (unkept : library.prices.find? (path, fuelKind kind) = none) :
    ((Library.loadPrices files path kind).run library).1 =
      Fuel.entries (fuelKind kind) ((library.source? files path).getD .null) := by
  unfold Library.loadPrices
  rw [Work.run_bind, Work.run_look]
  simp only [unkept]
  exact run_keep (run_documentOrNull files path library) _ _

theorem run_loadPrices_of_kept {files : Files} {path kind : String} {library : Library}
    {prices : List Fuel.Entry}
    (kept : library.prices.find? (path, fuelKind kind) = some prices) :
    ((Library.loadPrices files path kind).run library).1 = .ok prices := by
  unfold Library.loadPrices
  rw [Work.run_bind, Work.run_look]
  simp only [kept]
  rfl

section

variable {files others : Files} {path kind : String} {library : Library}

theorem toOption_readDocument_congr
    (same : (files.read path).toOption = (others.read path).toOption) :
    (readDocument files path).toOption = (readDocument others path).toOption := by
  simp only [readDocument, Files.readText, toOption_bind, same]

/-- A document that was kept, or can be read alike, is looked at alike. -/
theorem run_documentOrNull_congr (same : (library.documents.find? path).isSome ∨
      (readDocument files path).toOption = (readDocument others path).toOption) :
    (Library.documentOrNull files path).run library =
      (Library.documentOrNull others path).run library := by
  rw [Library.documentOrNull, Library.documentOrNull, Work.run_recover, Work.run_recover,
    Library.run_document, Library.run_document]
  cases kept : library.documents.find? path with
  | some document => rfl
  | none =>
      replace same := same.resolve_left (by simp [kept])
      cases here : readDocument files path with
      | ok document =>
          rw [here] at same
          rw [toOption_eq_some_iff.mp same.symm]
      | error fault =>
          cases there : readDocument others path with
          | ok document => simp [here, there, Except.toOption] at same
          | error fault' =>
              simp [recoverWhen, holdsNothing_of_readDocument here,
                holdsNothing_of_readDocument there]

theorem run_loadPlazas_congr (same : (library.plazas.find? path).isSome ∨
      (Library.documentOrNull files path).run library =
        (Library.documentOrNull others path).run library) :
    (Library.loadPlazas files path).run library = (Library.loadPlazas others path).run library := by
  rw [Library.loadPlazas, Library.loadPlazas, Work.run_bind, Work.run_bind, Work.run_look]
  cases kept : library.plazas.find? path with
  | some plazas => simp only [kept]
  | none =>
      simp only [kept]
      rw [Work.run_bind, Work.run_bind, same.resolve_left (by simp [kept])]

theorem run_loadPrices_congr (same : (library.prices.find? (path, fuelKind kind)).isSome ∨
      (Library.documentOrNull files path).run library =
        (Library.documentOrNull others path).run library) :
    (Library.loadPrices files path kind).run library =
      (Library.loadPrices others path kind).run library := by
  rw [Library.loadPrices, Library.loadPrices, Work.run_bind, Work.run_bind, Work.run_look]
  cases kept : library.prices.find? (path, fuelKind kind) with
  | some prices => simp only [kept]
  | none =>
      simp only [kept]
      rw [Work.run_bind, Work.run_bind, same.resolve_left (by simp [kept])]

end

/-! ## What is loaded -/

/-- A document lists items where a toll data set lists its records. -/
inductive ListsPlazas : Json → List Json → Prop where
  /-- The document is a list. -/
  | bare (items : List Json) : ListsPlazas (.list items) items
  /-- The document names the list. -/
  | named {fields : Fields} {items : List Json} :
      fields.lookup "toll_plazas" = some (.list items) → ListsPlazas (.object fields) items
  /-- The document names the list by its short name, and nothing by the long one. -/
  | short {fields : Fields} {items : List Json} :
      fields.lookup "toll_plazas" = none → fields.lookup "plazas" = some (.list items) →
      ListsPlazas (.object fields) items

theorem tollRecords_of_listsPlazas {document : Json} {items : List Json}
    (lists : ListsPlazas document items) :
    tollRecords document = items.filterMap Json.fields? := by
  cases lists with
  | bare => rfl
  | named long => simp [tollRecords, long]
  | short noLong short => simp [tollRecords, noLong, Fields.get, Fields.find?, short]

theorem tollRecords_of_not_listsPlazas {document : Json}
    (shapeless : ∀ items, ¬ ListsPlazas document items) : tollRecords document = [] := by
  cases document with
  | list items => exact absurd (.bare items) (shapeless items)
  | object fields =>
      simp only [tollRecords]
      split
      · rename_i items listed
        cases long : fields.lookup "toll_plazas" with
        | some value =>
            rw [long, Option.getD_some] at listed
            exact absurd (.named (long.trans (congrArg some listed))) (shapeless items)
        | none =>
            rw [long, Option.getD_none, Fields.get, Fields.find?] at listed
            cases short : fields.lookup "plazas" with
            | none => simp [short] at listed
            | some value =>
                rw [short, Option.getD_some] at listed
                exact absurd (.short long (short.trans (congrArg some listed))) (shapeless items)
      · rfl
  | null | bool | int | float | text => rfl

/-- What comes of loading plazas from a document, if there is one. -/
structure LoadsPlazas (source : Option Json) (result : Except Fault (List Toll.Plaza)) : Prop where
  /-- Without a document, and from one of another shape, nothing is loaded. -/
  empty : (∀ document items, source = some document → ¬ ListsPlazas document items) →
    result = .ok []
  /-- Only a record with a coordinate that no float can hold makes the loading fail. -/
  failed : ∀ fault, result = .error fault ↔ fault = .overflow ∧ ∃ document items record,
    source = some document ∧ ListsPlazas document items ∧ Json.object record ∈ items ∧
      Toll.HugeRecord record
  /-- Each record gives its own plaza, with the position that it tells, and none if it tells
  none. -/
  each : ∀ document items plazas, source = some document → ListsPlazas document items →
    result = .ok plazas → List.Forall₂ (fun record plaza => Toll.Plaza.ofRecord record = .ok plaza ∧
      ∀ p, plaza.location = some p ↔ Toll.Located record p) (items.filterMap Json.fields?) plazas

/-- What comes of loading the prices for a kind of fuel from a document, if there is one. -/
structure LoadsPrices (kind : String) (source : Option Json)
    (result : Except Fault (List Fuel.Entry)) : Prop where
  /-- Without a document, and from one that is no object, nothing is loaded. -/
  empty : (∀ states, source ≠ some (.object states)) → result = .ok []
  /-- Only a city with a price or a coordinate that no float can hold makes the loading fail. -/
  failed : ∀ fault, result = .error fault ↔ fault = .overflow ∧ ∃ states,
    source = some (.object states) ∧ ∃ city ∈ Fuel.cities states, Fuel.HugeCity kind city
  /-- Each city gives its own entry, or none. -/
  each : ∀ states prices, source = some (.object states) → result = .ok prices →
    ∃ answers, List.Forall₂ (fun city answer => ∀ entry, answer = some entry ↔
      Fuel.IsEntry kind city entry) (Fuel.cities states) answers ∧ prices = answers.filterMap id

theorem object_mem_iff {items : List Json} {record : Fields} :
    Json.object record ∈ items ↔ record ∈ items.filterMap Json.fields? := by
  rw [List.mem_filterMap]
  constructor
  · exact fun member => ⟨_, member, rfl⟩
  · rintro ⟨item, member, isObject⟩
    cases item with
    | object fields =>
        obtain rfl := Option.some.inj isObject
        exact member
    | null | bool | int | float | text | list => cases isObject

theorem tollPlazas_eq_error_iff {document : Json} :
    tollPlazas document = .error fault ↔
      fault = .overflow ∧ ∃ record ∈ tollRecords document, Toll.HugeRecord record :=
  mapM_eq_error_iff_exists fun _ _ _ => Toll.ofRecord_eq_error_iff

theorem loadsPlazas_tollPlazas (source : Option Json) :
    LoadsPlazas source (tollPlazas (source.getD .null)) where
  empty := by
    intro shapeless
    have nothing : tollRecords (source.getD .null) = [] := by
      refine tollRecords_of_not_listsPlazas fun items lists => ?_
      cases source with
      | none => cases lists
      | some document => exact shapeless document items rfl lists
    rw [tollPlazas, nothing]
    rfl
  failed := by
    intro fault
    rw [tollPlazas_eq_error_iff]
    refine and_congr_right fun _ => ⟨?_, ?_⟩
    · rintro ⟨record, member, huge⟩
      by_cases listed : ∃ items, ListsPlazas (source.getD .null) items
      · obtain ⟨items, lists⟩ := listed
        rw [tollRecords_of_listsPlazas lists, ← object_mem_iff] at member
        cases source with
        | none => cases lists
        | some document => exact ⟨document, items, record, rfl, lists, member, huge⟩
      · rw [tollRecords_of_not_listsPlazas (by simpa using listed)] at member
        cases member
    · rintro ⟨document, items, record, rfl, lists, member, huge⟩
      rw [Option.getD_some, tollRecords_of_listsPlazas lists]
      exact ⟨record, object_mem_iff.mp member, huge⟩
  each := by
    rintro document items plazas rfl lists read
    rw [Option.getD_some, tollPlazas, tollRecords_of_listsPlazas lists] at read
    exact (forall₂_of_mapM read).imp fun _ _ made => ⟨made, Toll.location_of_ofRecord made⟩

theorem loadsPrices_entries (kind : String) (source : Option Json) :
    LoadsPrices kind source (Fuel.entries kind (source.getD .null)) where
  empty := by
    intro shapeless
    cases source with
    | none => rfl
    | some document =>
        cases document with
        | object states => exact absurd rfl (shapeless states)
        | null | bool | int | float | text | list => rfl
  failed := by
    intro fault
    cases source with
    | none => simp [Fuel.entries]
    | some document =>
        cases document with
        | object states => simp [Fuel.entries_eq_error_iff]
        | null | bool | int | float | text | list => simp [Fuel.entries]
  each := by
    rintro states prices rfl read
    exact Fuel.forall₂_of_entries read

/-- If the document is kept or the file is shallow, loading gives what was kept, or else what is in
the document that it starts from: nothing if there is no document of the right shape, and item by
item otherwise.  It fails only for a number that no float can hold. -/
theorem loads_from_source (files : Files) (path kind : String) (library : Library)
    (shallow : library.documents.find? path = none → ∀ text, files.readText path = .ok text →
      Json.IsShallow (Json.tokens (Text.plainLines text).toList)) :
    (library.documents.find? path = none → ∀ text, files.readText path = .ok text →
        Json.FitsIn Json.nestingLimit (Json.tokens (Text.plainLines text).toList)) ∧
      (∀ plazas, library.plazas.find? path = some plazas →
        ((Library.loadPlazas files path).run library).1 = .ok plazas) ∧
      (library.plazas.find? path = none →
        LoadsPlazas (library.source? files path)
          ((Library.loadPlazas files path).run library).1) ∧
      (∀ prices, library.prices.find? (path, fuelKind kind) = some prices →
        ((Library.loadPrices files path kind).run library).1 = .ok prices) ∧
      (library.prices.find? (path, fuelKind kind) = none →
        LoadsPrices (fuelKind kind) (library.source? files path)
          ((Library.loadPrices files path kind).run library).1) := by
  refine ⟨fun unread text held => Json.fitsIn_of_isShallow (shallow unread text held),
    fun plazas => run_loadPlazas_of_kept, fun unkept => ?_,
    fun prices => run_loadPrices_of_kept, fun unkept => ?_⟩
  · rw [run_loadPlazas unkept]
    exact loadsPlazas_tollPlazas _
  · rw [run_loadPrices unkept]
    exact loadsPrices_entries _ _

/-- A store with one file. -/
def oneFile (text : String) : Files :=
  ⟨[(Files.home, .directory), (["home", "d"], .file (Text.toBytes text))]⟩

theorem readText_oneFile (text : String) : (oneFile text).readText "d" = .ok text := by
  have split : "d".splitOn "/" = ["d"] := by
    rw [String.splitOn, if_neg (by decide), String.splitOnAux, if_neg (by decide +kernel),
      if_neg (by decide +kernel), String.splitOnAux, if_pos (by decide +kernel)]
    decide +kernel
  have located : (oneFile text).locate "d" = .ok ["home", "d"] := by
    rw [Files.locate, split]
    rfl
  refine Files.readText_of_read ?_
  rw [Files.read, Files.find, located]
  rfl

/-- A list of two records of which the second one tells no position. -/
def unplacedText : String :=
  "[\x7b\"lat\":29,\"lon\":77\x7d,\x7b\"lat\":\"north\",\"lon\":77\x7d]"

/-- The records in the list. -/
def unplacedRecords : List Fields :=
  [[("lat", .int 29), ("lon", .int 77)], [("lat", .text "north"), ("lon", .int 77)]]

theorem read_unplacedText :
    Json.read unplacedText = .ok (.list (unplacedRecords.map .object)) := rfl

/-- The first record is a plaza in its place, and the second one a plaza without a place. -/
theorem loads_from_source_unplaced :
    (Library.empty.documents.find? "d" = none →
        ∀ text, (oneFile unplacedText).readText "d" = .ok text →
          Json.IsShallow (Json.tokens (Text.plainLines text).toList)) ∧
      (∃ plazas, ((Library.loadPlazas (oneFile unplacedText) "d").run .empty).1 = .ok plazas ∧
        List.Forall₂ (fun record plaza => Toll.Plaza.ofRecord record = .ok plaza ∧
          ∀ p, plaza.location = some p ↔ Toll.Located record p) unplacedRecords plazas) ∧
      ((Library.loadPrices (oneFile unplacedText) "d" " Petrol").run .empty).1 = .ok [] := by
  have shallow : Library.empty.documents.find? "d" = none →
      ∀ text, (oneFile unplacedText).readText "d" = .ok text →
        Json.IsShallow (Json.tokens (Text.plainLines text).toList) := by
    intro _ text held
    obtain rfl := Except.ok.inj ((readText_oneFile unplacedText).symm.trans held)
    decide +kernel
  have source : Library.empty.source? (oneFile unplacedText) "d" =
      some (.list (unplacedRecords.map .object)) := by
    rw [Library.source?, readDocument_eq, readText_oneFile, ok_bind, read_unplacedText]
    rfl
  obtain ⟨-, -, plazas, -, prices⟩ :=
    loads_from_source (oneFile unplacedText) "d" " Petrol" .empty shallow
  refine ⟨shallow, ?_, ?_⟩
  · have made : (tollPlazas (.list (unplacedRecords.map .object))).toOption.isSome = true := by
      decide +kernel
    obtain ⟨found, loaded⟩ := Option.isSome_iff_exists.mp made
    have outcome : ((Library.loadPlazas (oneFile unplacedText) "d").run .empty).1 = .ok found := by
      rw [run_loadPlazas rfl, source]
      exact toOption_eq_some_iff.mp loaded
    exact ⟨found, outcome, (plazas rfl).each _ _ found source (.bare _) outcome⟩
  · refine (prices rfl).empty fun states found => ?_
    rw [source] at found
    cases found

/-- A file in which a latitude has 310 digits. -/
def overlong : List Char :=
  "[\x7b\"lat\":1".toList ++ List.replicate 309 '0' ++ ",\"lon\":77\x7d]".toList

/-- A latitude that no float can hold leaves a file unloaded. -/
theorem not_loads_of_overlong :
    ¬ ∀ (files : Files) (path : String) (library : Library),
      ∃ plazas, ((Library.loadPlazas files path).run library).1 = .ok plazas := by
  intro all
  have failed : ((Json.read (.ofList overlong)).toOption.map fun document =>
      cause? (tollPlazas document)) = some (some .overflow) := by
    rw [Json.read, String.toList_ofList]
    decide +kernel
  obtain ⟨plazas, loaded⟩ := all (oneFile (.ofList overlong)) "d" .empty
  obtain ⟨document, read, unmade⟩ := Option.map_eq_some_iff.mp failed
  rw [run_loadPlazas rfl, Library.source?, readDocument_eq, readText_oneFile, ok_bind,
    toOption_eq_some_iff.mp read] at loaded
  have made : tollPlazas document = .ok plazas := loaded
  cases (cause?_eq_some_iff.mp unmade).symm.trans made

end JourneyCost.Data
