import JourneyCost.Proofs.Data.Written
import JourneyCost.Proofs.Fault
import JourneyCost.Proofs.Work

/-!
# Directories that were made

Making a directory with those on the way to it adds directories and nothing else, also when it fails
part of the way.  So every file is as it was, and a path that led somewhere leads there still.  A
directory that is there is not made again.
-/

namespace JourneyCost.Data.Files

/-- The same files and directories, and perhaps further directories. -/
structure Furnished (files files' : Files) : Prop where
  /-- What was there is there. -/
  kept : ∀ {place entry}, files.entryAt? place = some entry → files'.entryAt? place = some entry
  /-- What was not there is a directory. -/
  fresh : ∀ {place entry}, files'.entryAt? place = some entry →
    files.entryAt? place = some entry ∨ entry = .directory

variable {files files' : Files} {place here there : Place} {path root : String}

namespace Furnished

theorem refl (files : Files) : Furnished files files := ⟨id, .inl⟩

theorem trans {files'' : Files} (first : Furnished files files')
    (second : Furnished files' files'') : Furnished files files'' where
  kept stands := second.kept (first.kept stands)
  fresh stands := (second.fresh stands).elim first.fresh .inr

instance : Trans Furnished Furnished Furnished := ⟨trans⟩

variable (furnished : Furnished files files')

include furnished

theorem file_iff {bytes : Bytes} :
    files'.entryAt? place = some (.file bytes) ↔ files.entryAt? place = some (.file bytes) :=
  ⟨fun stands => (furnished.fresh stands).resolve_right (by simp), furnished.kept⟩

theorem walk {names : List String} (found : files.walk here names = .ok there) :
    files'.walk here names = .ok there := by
  induction names generalizing here with
  | nil => exact found
  | cons name more induction =>
      rw [Files.walk] at found ⊢
      cases stands : files.entryAt? here with
      | none => simp [stands] at found
      | some what =>
          rw [stands] at found
          rw [furnished.kept stands]
          cases what with
          | file => exact found
          | directory =>
              obtain ⟨ahead, next, further⟩ := bind_eq_ok.mp found
              exact bind_eq_ok.mpr ⟨ahead, next, induction further⟩

/-- A path that led somewhere leads there still. -/
theorem locate (located : files.locate path = .ok there) : files'.locate path = .ok there := by
  unfold Files.locate at located ⊢
  split_ifs at located ⊢ <;> exact furnished.walk located

/-- A path that led somewhere is read alike after directories were made. -/
theorem toOption_read (located : files.locate path = .ok place) :
    (files'.read path).toOption = (files.read path).toOption := by
  ext bytes
  rw [toOption_eq_some_iff, toOption_eq_some_iff, read_eq_ok_iff, read_eq_ok_iff,
    located, furnished.locate located]
  simp only [Except.ok.injEq, exists_eq_left', furnished.file_iff]

end Furnished

theorem furnished_put (free : files.entryAt? place = none) :
    Furnished files (files.put place .directory) := by
  have noDirectory : files.entryAt? place ≠ some .directory := by simp [free]
  constructor <;> intro spot entry stands
  · have elsewhere : spot ≠ place := by
      rintro rfl
      cases free.symm.trans stands
    rwa [entryAt?_put _ noDirectory, if_neg elsewhere]
  · rw [entryAt?_put _ noDirectory] at stands
    split at stands
    · exact .inr (Option.some.inj stands).symm
    · exact .inl stands

theorem makeDirectory_eq_ok (made : files.makeDirectory path = .ok files') :
    ∃ place, files.locate path = .ok place ∧ files.entryAt? place = none ∧
      files' = files.put place .directory := by
  obtain ⟨place, located, made⟩ := bind_eq_ok.mp made
  cases free : files.entryAt? place with
  | none =>
      rw [free] at made
      exact ⟨place, located, free, (Except.ok.inj made).symm⟩
  | some entry => simp [free, throw, throwThe, MonadExceptOf.throw] at made

theorem within_settleDirectory (path : String) :
    Work.Within Furnished (settleDirectory path) := by
  intro files
  rw [Work.run, settleDirectory]
  split
  · rename_i made
    obtain ⟨place, -, free, rfl⟩ := makeDirectory_eq_ok made
    exact furnished_put free
  · exact .refl files

/-- Making directories adds directories and nothing else, also if it fails. -/
theorem within_ensureNames (root : String) (names : List String) :
    Work.Within Furnished (ensureNames root names) := by
  induction names with
  | nil => exact within_settleDirectory _
  | cons name before induction =>
      refine Work.Within.bind (fun files => .refl files) fun files => ?_
      split
      · exact induction.bind fun _ => within_settleDirectory _
      · exact within_settleDirectory _

theorem within_ensureDirectory (path : String) :
    Work.Within Furnished (ensureDirectory path) :=
  within_ensureNames _ _

theorem hasDirectory_iff : files.hasDirectory path = true ↔
    ∃ place, files.locate path = .ok place ∧ files.entryAt? place = some .directory := by
  rw [← find_eq_ok_iff, hasDirectory]
  cases files.find path with
  | error fault => simp
  | ok what => cases what <;> simp

theorem makeDirectory_of_hasDirectory (there : files.hasDirectory path = true) :
    files.makeDirectory path = .error .alreadyThere := by
  obtain ⟨place, located, stands⟩ := hasDirectory_iff.mp there
  rw [makeDirectory, located, ok_bind, stands]
  rfl

theorem run_settleDirectory_of_hasDirectory (there : files.hasDirectory path = true) :
    (settleDirectory path).run files = (.ok (), files) := by
  rw [Work.run, settleDirectory, makeDirectory_of_hasDirectory there]
  simp [there]

theorem hasDirectory_of_run_settleDirectory
    (settled : (settleDirectory path).run files = (.ok (), files')) :
    files'.hasDirectory path = true := by
  rw [Work.run, settleDirectory] at settled
  split at settled
  · rename_i made
    obtain ⟨place, located, free, rfl⟩ := makeDirectory_eq_ok made
    obtain rfl := congrArg Prod.snd settled
    have noDirectory : files.entryAt? place ≠ some .directory := by simp [free]
    refine hasDirectory_iff.mpr ⟨place, locate_put noDirectory located, ?_⟩
    rw [entryAt?_put _ noDirectory, if_pos rfl]
  · split at settled
    · rename_i there
      obtain rfl := congrArg Prod.snd settled
      exact there
    · cases congrArg Prod.fst settled

/-- A directory that was made is there. -/
theorem hasDirectory_of_run_ensureNames {names : List String}
    (ensured : (ensureNames root names).run files = (.ok (), files')) :
    files'.hasDirectory (joinPath root names.reverse) = true := by
  cases names with
  | nil => exact hasDirectory_of_run_settleDirectory ensured
  | cons name before =>
      obtain ⟨looked, between, same, ensured⟩ := Work.run_bind_eq_ok.mp ensured
      split at ensured
      · obtain ⟨-, further, -, settled⟩ := Work.run_bind_eq_ok.mp ensured
        exact hasDirectory_of_run_settleDirectory settled
      · exact hasDirectory_of_run_settleDirectory ensured

/-- A directory that is there is not made again. -/
theorem run_ensureNames_of_hasDirectory {names : List String}
    (there : files.hasDirectory (joinPath root names.reverse) = true) :
    (ensureNames root names).run files = (.ok (), files) := by
  cases names with
  | nil => exact run_settleDirectory_of_hasDirectory there
  | cons name before =>
      refine Work.run_bind_eq_ok.mpr ⟨files, files, rfl, ?_⟩
      simp only [makeDirectory_of_hasDirectory there]
      exact run_settleDirectory_of_hasDirectory there

/-- A directory that was made is not made again after a file was written. -/
theorem run_ensureDirectory_again {other : String} {bytes : Bytes} {files'' : Files}
    (ensured : (ensureDirectory path).run files = (.ok (), files'))
    (written : files'.write other bytes = .ok files'') :
    (ensureDirectory path).run files'' = (.ok (), files'') := by
  obtain ⟨place, -, free, rfl⟩ := write_eq_ok written
  obtain ⟨spot, located, stands⟩ := hasDirectory_iff.mp (hasDirectory_of_run_ensureNames ensured)
  have elsewhere : spot ≠ place := fun same => free (same ▸ stands)
  refine run_ensureNames_of_hasDirectory (hasDirectory_iff.mpr ⟨spot, locate_put free located, ?_⟩)
  rwa [entryAt?_put _ free, if_neg elsewhere]

end JourneyCost.Data.Files
