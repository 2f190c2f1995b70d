/-!
# Most recent results

A table of bounded size keeps the results that were used last.  Its entries stand in order of use,
the last one first; a new entry drops the one that was not used for longest.
-/

namespace JourneyCost.Data

/-- Results by key, the one used last first. -/
structure Recent (κ α : Type) where
  /-- The entries in order of use. -/
  entries : List (κ × α)

namespace Recent

variable {κ α : Type} [BEq κ]

/-- A table without entries. -/
def empty : Recent κ α := ⟨[]⟩

/-- The result for a key. -/
def find? (table : Recent κ α) (key : κ) : Option α := table.entries.lookup key

/-- The table after the entry of a key was used. -/
def use (table : Recent κ α) (key : κ) : Recent κ α :=
  match table.find? key with
  | some value => ⟨(key, value) :: table.entries.filter (!·.1 == key)⟩
  | none => table

/-- The table with a new entry, cut to a number of entries. -/
def keep (table : Recent κ α) (capacity : Nat) (key : κ) (value : α) : Recent κ α :=
  ⟨((key, value) :: table.entries.filter (!·.1 == key)).take capacity⟩

end Recent

end JourneyCost.Data
