import JourneyCost.Data.Files
import JourneyCost.Proofs.Text.RoundTrip

/-!
# Files that were written

What is written stands at no place that was a directory, so every path leads where it led before,
and what was written is read again.
-/

namespace JourneyCost.Data.Files

variable {files files' : Files} {place here there : Place} {bytes : Bytes} {entry : Entry}

theorem entryAt?_put (entry : Entry) (free : files.entryAt? place ≠ some .directory)
    (other : Place) : (files.put place entry).entryAt? other =
      if other = place then some entry else files.entryAt? other := by
  have filtered : ∀ entries : List (Place × Entry), other ≠ place →
      (entries.filter (·.1 != place)).lookup other = entries.lookup other := by
    intro entries different
    induction entries with
    | nil => rfl
    | cons first more induction =>
        obtain ⟨spot, what⟩ := first
        by_cases dropped : spot = place
        · simp [dropped, induction, List.lookup_cons, beq_false_of_ne different]
        · simp [dropped, induction, List.lookup_cons]
  by_cases same : other = place
  · subst same
    have root : other ≠ [] := by
      rintro rfl
      exact free rfl
    have further : other.isEmpty = false := by simpa using root
    simp [entryAt?, put, further]
  · simp [entryAt?, put, same, List.lookup_cons, beq_false_of_ne same, filtered files.entries same]

theorem put_put (place : Place) (entry other : Entry) :
    (files.put place entry).put place other = files.put place other := by
  simp [put, List.filter_filter]

/-- A path that led somewhere leads there after something was put where there was no directory. -/
theorem walk_put (free : files.entryAt? place ≠ some .directory) {names : List String}
    (found : files.walk here names = .ok there) :
    (files.put place entry).walk here names = .ok there := by
  induction names generalizing here with
  | nil => exact found
  | cons name more induction =>
      rw [walk] at found ⊢
      cases stands : files.entryAt? here with
      | none => simp [stands] at found
      | some what =>
          cases what with
          | file => simp [stands] at found
          | directory =>
              have elsewhere : here ≠ place := fun same => free (same ▸ stands)
              rw [entryAt?_put _ free, if_neg elsewhere, stands]
              rw [stands] at found
              cases next : step here name with
              | error fault => simp [next] at found
              | ok ahead =>
                  simp only [next, ok_bind] at found ⊢
                  exact induction found

theorem write_eq_ok {path : String} (written : files.write path bytes = .ok files') :
    ∃ place, files.locate path = .ok place ∧ files.entryAt? place ≠ some .directory ∧
      files' = files.put place (.file bytes) := by
  unfold write at written
  cases located : files.locate path with
  | error fault => simp [located] at written
  | ok place =>
      simp only [located, ok_bind] at written
      refine ⟨place, rfl, ?_⟩
      split at written
      · exact absurd written (by simp [throw, throwThe, MonadExceptOf.throw])
      · rename_i free
        exact ⟨free, (Except.ok.inj written).symm⟩

theorem locate_put {path : String} (free : files.entryAt? place ≠ some .directory)
    (located : files.locate path = .ok there) :
    (files.put place entry).locate path = .ok there := by
  unfold locate at located ⊢
  split_ifs at located ⊢ <;> exact walk_put free located

/-- What was written to a file is what it holds. -/
theorem read_write {path : String} (written : files.write path bytes = .ok files') :
    files'.read path = .ok bytes := by
  obtain ⟨place, located, free, rfl⟩ := write_eq_ok written
  rw [read, find, locate_put free located, ok_bind, entryAt?_put _ free, if_pos rfl]
  rfl

theorem find_eq_ok_iff {path : String} :
    files.find path = .ok entry ↔
      ∃ place, files.locate path = .ok place ∧ files.entryAt? place = some entry := by
  unfold find
  cases located : files.locate path with
  | error fault => simp
  | ok place =>
      cases stands : files.entryAt? place with
      | none => simp [stands, throw, throwThe, MonadExceptOf.throw]
      | some what => simp [stands, pure, Except.pure]

theorem read_eq_ok_iff {path : String} :
    files.read path = .ok bytes ↔
      ∃ place, files.locate path = .ok place ∧ files.entryAt? place = some (.file bytes) := by
  rw [← find_eq_ok_iff, read]
  cases files.find path with
  | error fault => simp
  | ok what => cases what <;> simp [pure, Except.pure, throw, throwThe, MonadExceptOf.throw]

/-- Writing the same again changes nothing. -/
theorem write_again {path : String} (written : files.write path bytes = .ok files') :
    files'.write path bytes = .ok files' := by
  obtain ⟨place, located, free, rfl⟩ := write_eq_ok written
  rw [write, locate_put free located, ok_bind, entryAt?_put _ free, if_pos rfl]
  exact congrArg Except.ok (put_put place _ _)

/-- The text of a file whose bytes are those of a text. -/
theorem readText_of_read {path s : String} (found : files.read path = .ok (Text.toBytes s)) :
    files.readText path = .ok s := by
  rw [readText, found, ok_bind, Text.ofBytes?_toBytes]
  rfl

/-- Paths that lead to one place are read alike. -/
theorem read_congr {path path' : String} (same : files.locate path = files.locate path') :
    files.read path = files.read path' := by
  rw [read, read, find, find, same]

theorem exists_file_of_readText {path s : String} (held : files.readText path = .ok s) :
    ∃ place bytes, files.locate path = .ok place ∧ files.entryAt? place = some (.file bytes) := by
  obtain ⟨bytes, opened, -⟩ := bind_eq_ok.mp held
  obtain ⟨place, located, stands⟩ := read_eq_ok_iff.mp opened
  exact ⟨place, bytes, located, stands⟩

section

variable {old : Bytes} (held : files.entryAt? place = some (.file old))

include held

/-- Every path leads where it led before, if anywhere, when a file is put in place of a file. -/
theorem walk_replace (here : Place) (names : List String) :
    (files.put place (.file bytes)).walk here names = files.walk here names := by
  have free : files.entryAt? place ≠ some .directory := by simp [held]
  induction names generalizing here with
  | nil => rfl
  | cons name more induction =>
      rw [walk, walk, entryAt?_put _ free]
      split_ifs with same
      · rw [same, held]
      · simp only [induction]

theorem locate_replace (path : String) :
    (files.put place (.file bytes)).locate path = files.locate path := by
  simp only [locate, walk_replace held]

/-- What other paths lead to is as it was. -/
theorem readText_replace {path : String} (elsewhere : files.locate path ≠ .ok place) :
    (files.put place (.file bytes)).readText path = files.readText path := by
  have free : files.entryAt? place ≠ some .directory := by simp [held]
  have found : (files.put place (.file bytes)).find path = files.find path := by
    rw [find, find, locate_replace held]
    cases located : files.locate path with
    | error fault => rfl
    | ok there =>
        have different : there ≠ place := fun same => elsewhere (same ▸ located)
        simp only [ok_bind, entryAt?_put _ free, if_neg different]
  rw [readText, readText, read, read, found]

end

end JourneyCost.Data.Files
