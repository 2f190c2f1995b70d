import JourneyCost.Data.Library
import JourneyCost.Proofs.Json.LineEnds
import Mathlib.Data.List.Basic

/-!
# Libraries that keep nothing but what was read

What a library keeps is faithful to a class of stores when every entry is what the file held in one
of them.  Loading keeps it so, and gives what a reading without a library gives in one of them.
-/

namespace JourneyCost.Data

namespace Recent

variable {κ α : Type} [BEq κ]

theorem mem_of_find? [LawfulBEq κ] {table : Recent κ α} {key : κ} {value : α}
    (found : table.find? key = some value) : (key, value) ∈ table.entries := by
  obtain ⟨before, rest, entries, -⟩ := List.lookup_eq_some_iff.mp found
  rw [entries]
  exact List.mem_append_right before List.mem_cons_self

theorem mem_of_mem_use [LawfulBEq κ] {table : Recent κ α} {key : κ} {entry : κ × α}
    (member : entry ∈ (table.use key).entries) : entry ∈ table.entries := by
  unfold use at member
  split at member
  · rename_i value found
    obtain rfl | kept := List.mem_cons.mp member
    · exact mem_of_find? found
    · exact (List.mem_filter.mp kept).1
  · exact member

theorem mem_of_mem_keep {table : Recent κ α} {capacity : Nat} {key : κ} {value : α}
    {entry : κ × α} (member : entry ∈ (table.keep capacity key value).entries) :
    entry = (key, value) ∨ entry ∈ table.entries := by
  obtain rfl | kept := List.mem_cons.mp (List.mem_of_mem_take member)
  · exact .inl rfl
  · exact .inr (List.mem_filter.mp kept).1

end Recent

/-- How lines end does not matter for the document in a file. -/
theorem readDocument_eq (files : Files) (path : String) :
    readDocument files path = files.readText path >>= Json.read := by
  simp only [readDocument, Json.read_plainLines]

/-- The document in a file, null if the file holds nothing. -/
def documentIn (files : Files) (path : String) : Except Fault Json :=
  recoverWhen holdsNothing .null (readDocument files path)

/-- The toll plazas in a file. -/
def plazasIn (files : Files) (path : String) : Except Fault (List Toll.Plaza) :=
  documentIn files path >>= tollPlazas

/-- The prices in a file for a kind of fuel in its common form. -/
def pricesIn (files : Files) (path kind : String) : Except Fault (List Fuel.Entry) :=
  documentIn files path >>= Fuel.entries kind

namespace Library

/-- Every entry is what the file held in one of the stores. -/
structure Faithful (stores : Files → Prop) (library : Library) : Prop where
  /-- Documents are as they were read. -/
  documents : ∀ path document, (path, document) ∈ library.documents.entries →
    ∃ files, stores files ∧ readDocument files path = .ok document
  /-- Plazas are as they were read. -/
  plazas : ∀ path plazas, (path, plazas) ∈ library.plazas.entries →
    ∃ files, stores files ∧ plazasIn files path = .ok plazas
  /-- Prices are as they were read. -/
  prices : ∀ path kind prices, ((path, kind), prices) ∈ library.prices.entries →
    ∃ files, stores files ∧ pricesIn files path kind = .ok prices

theorem faithful_empty (stores : Files → Prop) : empty.Faithful stores :=
  ⟨fun _ _ member => absurd member List.not_mem_nil,
    fun _ _ member => absurd member List.not_mem_nil,
    fun _ _ _ member => absurd member List.not_mem_nil⟩

theorem Faithful.mono {stores more : Files → Prop} {library : Library}
    (faithful : library.Faithful stores) (included : ∀ files, stores files → more files) :
    library.Faithful more where
  documents path document member := by
    obtain ⟨files, store, read⟩ := faithful.documents path document member
    exact ⟨files, included files store, read⟩
  plazas path plazas member := by
    obtain ⟨files, store, read⟩ := faithful.plazas path plazas member
    exact ⟨files, included files store, read⟩
  prices path kind prices member := by
    obtain ⟨files, store, read⟩ := faithful.prices path kind prices member
    exact ⟨files, included files store, read⟩

/-- Work that keeps libraries faithful and gives what a reading gives in one of the stores. -/
def Reads (stores : Files → Prop) {α : Type} (work : Work Library α)
    (reading : Files → Except Fault α) : Prop :=
  ∀ library : Library, library.Faithful stores → (work.run library).2.Faithful stores ∧
    ∃ files, stores files ∧ (work.run library).1 = reading files

variable {stores : Files → Prop} {files : Files}

theorem run_document (files : Files) (path : String) (library : Library) :
    (document files path).run library =
      match library.documents.find? path with
      | some value => (.ok value, { library with documents := library.documents.use path })
      | none =>
        match readDocument files path with
        | .ok value =>
          (.ok value,
            { library with documents := library.documents.keep documentCapacity path value })
        | .error fault => (.error fault, library) := rfl

theorem reads_document (current : stores files) (path : String) :
    Reads stores (document files path) fun files => readDocument files path := by
  intro library faithful
  rw [run_document]
  cases found : library.documents.find? path with
  | some value =>
      obtain ⟨earlier, store, read⟩ := faithful.documents path value (Recent.mem_of_find? found)
      refine ⟨⟨?_, faithful.plazas, faithful.prices⟩, earlier, store, read.symm⟩
      exact fun key document member =>
        faithful.documents key document (Recent.mem_of_mem_use member)
  | none =>
      cases read : readDocument files path with
      | error fault => exact ⟨faithful, files, current, read.symm⟩
      | ok value =>
          refine ⟨⟨?_, faithful.plazas, faithful.prices⟩, files, current, read.symm⟩
          intro key document member
          obtain same | kept := Recent.mem_of_mem_keep member
          · obtain ⟨rfl, rfl⟩ := Prod.mk.inj same
            exact ⟨files, current, read⟩
          · exact faithful.documents key document kept

theorem reads_documentOrNull (current : stores files) (path : String) :
    Reads stores (documentOrNull files path) fun files => documentIn files path := by
  intro library faithful
  obtain ⟨after, earlier, store, read⟩ := reads_document current path library faithful
  refine ⟨after, earlier, store, ?_⟩
  exact congrArg (recoverWhen holdsNothing .null) read

/-- Work that goes on to make a result and keep it still reads, if keeping a result of one of the
stores leaves libraries faithful. -/
theorem reads_keep {α β : Type} {work : Work Library α} {reading : Files → Except Fault α}
    (reads : Reads stores work reading) (make : α → Except Fault β)
    (put : β → Library → Library)
    (kept : ∀ library value files, library.Faithful stores → stores files →
      reading files >>= make = .ok value → (put value library).Faithful stores) :
    Reads stores
      (do
        let value ← work
        let made ← Work.ofExcept (make value)
        Work.change (put made)
        return made)
      fun files => reading files >>= make := by
  intro library faithful
  obtain ⟨after, files, store, read⟩ := reads library faithful
  rw [Work.run_bind]
  rcases outcome : work.run library with ⟨result, library'⟩
  rw [outcome] at after read
  obtain rfl : result = reading files := read
  cases value : reading files with
  | error fault =>
      have failed : reading files >>= make = .error fault := by rw [value]; rfl
      exact ⟨after, files, store, failed.symm⟩
  | ok document =>
      have step : reading files >>= make = make document := by rw [value]; rfl
      simp only [Work.run_bind, Work.run_ofExcept]
      cases made : make document with
      | error fault => exact ⟨after, files, store, (step.trans made).symm⟩
      | ok result =>
          have succeeded : reading files >>= make = .ok result := step.trans made
          exact ⟨kept library' result files after store succeeded, files, store, succeeded.symm⟩

theorem reads_loadPlazas (current : stores files) (path : String) :
    Reads stores (loadPlazas files path) fun files => plazasIn files path := by
  intro library faithful
  rw [loadPlazas, Work.run_bind, Work.run_look]
  cases found : library.plazas.find? path with
  | some plazas =>
      obtain ⟨earlier, store, read⟩ := faithful.plazas path plazas (Recent.mem_of_find? found)
      simp only [found, Work.run_bind, Work.run_change, Work.run_pure]
      refine ⟨⟨faithful.documents, ?_, faithful.prices⟩, earlier, store, read.symm⟩
      exact fun key plazas member => faithful.plazas key plazas (Recent.mem_of_mem_use member)
  | none =>
      simp only [found]
      refine reads_keep (reads_documentOrNull current path) tollPlazas _ ?_ library faithful
      intro library plazas files faithful store read
      refine ⟨faithful.documents, ?_, faithful.prices⟩
      intro key value member
      obtain same | kept := Recent.mem_of_mem_keep member
      · obtain ⟨rfl, rfl⟩ := Prod.mk.inj same
        exact ⟨files, store, read⟩
      · exact faithful.plazas key value kept

theorem reads_loadPrices (current : stores files) (path kind : String) :
    Reads stores (loadPrices files path kind) fun files =>
      pricesIn files path (fuelKind kind) := by
  intro library faithful
  rw [loadPrices, Work.run_bind, Work.run_look]
  cases found : library.prices.find? (path, fuelKind kind) with
  | some prices =>
      obtain ⟨earlier, store, read⟩ :=
        faithful.prices path (fuelKind kind) prices (Recent.mem_of_find? found)
      simp only [found, Work.run_bind, Work.run_change, Work.run_pure]
      refine ⟨⟨faithful.documents, faithful.plazas, ?_⟩, earlier, store, read.symm⟩
      exact fun key common prices member =>
        faithful.prices key common prices (Recent.mem_of_mem_use member)
  | none =>
      simp only [found]
      refine reads_keep (reads_documentOrNull current path) (Fuel.entries (fuelKind kind)) _ ?_
        library faithful
      intro library prices files faithful store read
      refine ⟨faithful.documents, faithful.plazas, ?_⟩
      intro key common value member
      obtain same | kept := Recent.mem_of_mem_keep member
      · obtain ⟨sameKey, rfl⟩ := Prod.mk.inj same
        obtain ⟨rfl, rfl⟩ := Prod.mk.inj sameKey
        exact ⟨files, store, read⟩
      · exact faithful.prices key common value kept

end Library

end JourneyCost.Data
