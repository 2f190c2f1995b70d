import JourneyCost.Proofs.Data.Faithful
import Mathlib.Data.List.Induction

/-!
# How old a load can be

Files are written and deleted, data sets are loaded and the library is cleared, in any order.  A
load then gives what a reading without a library would have given at some moment since the library
was last cleared.
-/

namespace JourneyCost.Data

/-- What can happen to files and the library that reads them. -/
inductive Event where
  /-- A file is written. -/
  | write (path : String) (bytes : Bytes)
  /-- A file is deleted. -/
  | delete (path : String)
  /-- The toll plazas in a file are loaded. -/
  | loadPlazas (path : String)
  /-- The prices in a file for a kind of fuel are loaded. -/
  | loadPrices (path kind : String)
  /-- The library is cleared. -/
  | clear

/-- Files with the library that reads them. -/
structure Archive where
  /-- The files. -/
  files : Files
  /-- The library. -/
  library : Library

namespace Archive

/-- Files with a library that has read nothing. -/
def start (files : Files) : Archive := ⟨files, .empty⟩

/-- The toll plazas that a load gives. -/
def plazas (archive : Archive) (path : String) : Except Fault (List Toll.Plaza) :=
  ((Library.loadPlazas archive.files path).run archive.library).1

/-- The prices that a load gives. -/
def prices (archive : Archive) (path kind : String) : Except Fault (List Fuel.Entry) :=
  ((Library.loadPrices archive.files path kind).run archive.library).1

/-- The archive after an event.  A file that cannot be written or deleted stays as it is. -/
def apply (archive : Archive) : Event → Archive
  | .write path bytes =>
    { archive with files := (archive.files.write path bytes).toOption.getD archive.files }
  | .delete path =>
    { archive with files := (archive.files.delete path).toOption.getD archive.files }
  | .loadPlazas path =>
    { archive with library := ((Library.loadPlazas archive.files path).run archive.library).2 }
  | .loadPrices path kind =>
    { archive with library := ((Library.loadPrices archive.files path kind).run archive.library).2 }
  | .clear => { archive with library := .empty }

/-- The archive after a sequence of events. -/
def after (archive : Archive) (events : List Event) : Archive := events.foldl apply archive

/-- The files as they were after the first `n` events. -/
def filesAt (files : Files) (events : List Event) (n : Nat) : Files :=
  ((start files).after (events.take n)).files

/-- Moments at which no clearing was still to come. -/
def SinceClear (events : List Event) (n : Nat) : Prop :=
  n ≤ events.length ∧ Event.clear ∉ events.drop n

/-- The stores of files since the library was last cleared. -/
def StoresSinceClear (files : Files) (events : List Event) (store : Files) : Prop :=
  ∃ n, SinceClear events n ∧ filesAt files events n = store

theorem after_concat (archive : Archive) (events : List Event) (event : Event) :
    archive.after (events ++ [event]) = (archive.after events).apply event := by
  simp only [after, List.foldl_append, List.foldl_cons, List.foldl_nil]

theorem storesSinceClear_now (files : Files) (events : List Event) :
    StoresSinceClear files events ((start files).after events).files := by
  refine ⟨events.length, ⟨Nat.le_refl _, ?_⟩, ?_⟩
  · rw [List.drop_length]
    exact List.not_mem_nil
  · rw [filesAt, List.take_length]

theorem StoresSinceClear.concat {files : Files} {events : List Event} {store : Files}
    (since : StoresSinceClear files events store) {event : Event} (kept : event ≠ .clear) :
    StoresSinceClear files (events ++ [event]) store := by
  obtain ⟨n, ⟨bound, uncleared⟩, rfl⟩ := since
  refine ⟨n, ⟨?_, ?_⟩, ?_⟩
  · rw [List.length_append]
    omega
  · rw [List.drop_append_of_le_length bound, List.mem_append, List.mem_singleton]
    rintro (before | last)
    · exact uncleared before
    · exact kept last.symm
  · rw [filesAt, List.take_append_of_le_length bound, filesAt]

/-- The library holds nothing but what files held since it was cleared, whatever happened. -/
theorem faithful_after (files : Files) (events : List Event) :
    ((start files).after events).library.Faithful (StoresSinceClear files events) := by
  -- From the last event back: until a clearing, which empties the library, stores are only added.
  induction events using List.reverseRecOn with
  | nil => exact Library.faithful_empty _
  | append_singleton events event induction =>
      have now := storesSinceClear_now files events
      rw [after_concat]
      cases event with
      | write path bytes => exact induction.mono fun store since => since.concat (by simp)
      | delete path => exact induction.mono fun store since => since.concat (by simp)
      | loadPlazas path =>
          have loaded := (Library.reads_loadPlazas now path _ induction).1
          exact loaded.mono fun store since => since.concat (by simp)
      | loadPrices path kind =>
          have loaded := (Library.reads_loadPrices now path kind _ induction).1
          exact loaded.mono fun store since => since.concat (by simp)
      | clear => exact Library.faithful_empty _

theorem plazas_after (files : Files) (events : List Event) (path : String) :
    ∃ n, SinceClear events n ∧
      ((start files).after events).plazas path = plazasIn (filesAt files events n) path := by
  have now := storesSinceClear_now files events
  obtain ⟨-, store, ⟨n, since, rfl⟩, read⟩ :=
    Library.reads_loadPlazas now path _ (faithful_after files events)
  exact ⟨n, since, read⟩

theorem prices_after (files : Files) (events : List Event) (path kind : String) :
    ∃ n, SinceClear events n ∧ ((start files).after events).prices path kind =
      pricesIn (filesAt files events n) path (fuelKind kind) := by
  have now := storesSinceClear_now files events
  obtain ⟨-, store, ⟨n, since, rfl⟩, read⟩ :=
    Library.reads_loadPrices now path kind _ (faithful_after files events)
  exact ⟨n, since, read⟩

/-- What a file holds depends on its bytes alone. -/
theorem documentIn_congr {files others : Files} {path : String}
    (same : files.read path = others.read path) :
    documentIn files path = documentIn others path := by
  unfold documentIn readDocument Files.readText
  rw [same]

/-- Only the present remains of the moments since a clearing that has just been made. -/
theorem filesAt_of_sinceClear_cleared {files : Files} {events : List Event} {n : Nat}
    (since : SinceClear (events ++ [.clear]) n) :
    filesAt files (events ++ [.clear]) n = ((start files).after (events ++ [.clear])).files := by
  obtain ⟨bound, uncleared⟩ := since
  have last : n = (events ++ [Event.clear]).length := by
    by_contra earlier
    have inside : n ≤ events.length := by
      rw [List.length_append, List.length_singleton] at bound earlier
      omega
    rw [List.drop_append_of_le_length inside] at uncleared
    exact uncleared (List.mem_append_right _ (List.mem_singleton_self _))
  rw [filesAt, last, List.take_length]

/-- A load gives what a reading would have given at some moment since the library was cleared; so
it gives what a reading gives now if the file has not changed since then, or if the library has
just been cleared. -/
theorem loads_since_clear (files : Files) (events : List Event) :
    (∀ path, ∃ n, SinceClear events n ∧
      ((start files).after events).plazas path = plazasIn (filesAt files events n) path) ∧
    (∀ path kind, ∃ n, SinceClear events n ∧ ((start files).after events).prices path kind =
      pricesIn (filesAt files events n) path (fuelKind kind)) ∧
    (∀ path,
      (∀ n, SinceClear events n →
        (filesAt files events n).read path = ((start files).after events).files.read path) →
      ((start files).after events).plazas path =
          plazasIn ((start files).after events).files path ∧
        ∀ kind, ((start files).after events).prices path kind =
          pricesIn ((start files).after events).files path (fuelKind kind)) ∧
    ∀ path,
      ((start files).after (events ++ [.clear])).plazas path =
          plazasIn ((start files).after (events ++ [.clear])).files path ∧
        ∀ kind, ((start files).after (events ++ [.clear])).prices path kind =
          pricesIn ((start files).after (events ++ [.clear])).files path (fuelKind kind) := by
  refine ⟨plazas_after files events, prices_after files events, ?_, ?_⟩
  · intro path unchanged
    constructor
    · obtain ⟨n, since, loaded⟩ := plazas_after files events path
      rw [loaded, plazasIn, documentIn_congr (unchanged n since), plazasIn]
    · intro kind
      obtain ⟨n, since, loaded⟩ := prices_after files events path kind
      rw [loaded, pricesIn, documentIn_congr (unchanged n since), pricesIn]
  · intro path
    constructor
    · obtain ⟨n, since, loaded⟩ := plazas_after files (events ++ [.clear]) path
      rw [loaded, filesAt_of_sinceClear_cleared since]
    · intro kind
      obtain ⟨n, since, loaded⟩ := prices_after files (events ++ [.clear]) path kind
      rw [loaded, filesAt_of_sinceClear_cleared since]

/-- A file that was written before the library was cleared and not since. -/
theorem loads_since_clear_written :
    let events : List Event := [.loadPlazas "tolls.json", .write "tolls.json" [0x5b, 0x5d], .clear,
      .loadPlazas "tolls.json", .loadPrices "tolls.json" "petrol"]
    ((start .empty).after events).plazas "tolls.json" =
      plazasIn ((start .empty).after events).files "tolls.json" := by
  intro events
  refine ((loads_since_clear .empty events).2.2.1 "tolls.json" ?_).1
  intro n since
  obtain ⟨bound, uncleared⟩ := since
  match n with
  | 0 | 1 | 2 => exact absurd uncleared (by simp [events])
  | 3 | 4 | 5 => rfl
  | n + 6 => exact absurd bound (by simp [events])

end Archive

end JourneyCost.Data
