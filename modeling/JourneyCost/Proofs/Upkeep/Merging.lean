import JourneyCost.Proofs.Json.Path
import JourneyCost.Proofs.Upkeep.Cheapest
import JourneyCost.Upkeep.Merge

/-!
# Merging as writing

A row of a price table puts its price at the end of one path of the data set, and the position of
the city at the end of another.  So merging rows is putting values at the ends of paths, and the
counts tell which of these held something before.
-/

namespace JourneyCost.Upkeep

open Decimal Json

/-- The path to the price for a key. -/
def Key.path (key : Key) : List String := [key.1, key.2.1, key.2.2]

/-- The path to the position of a city. -/
def positionPath (state city : String) : List String := [state, city, "location"]

theorem Key.path_inj {key key' : Key} : key.path = key'.path ↔ key = key' := by
  obtain ⟨state, city, fuel⟩ := key
  obtain ⟨state', city', fuel'⟩ := key'
  simp [path]

theorem Key.path_apart {key key' : Key} (different : key ≠ key') :
    Apart key.path key'.path :=
  apart_of_length_eq rfl fun same => different (Key.path_inj.mp same)

theorem positionPath_ne_path {row : PriceRow} (fuel : row.fuel ≠ "location")
    (state city : String) : positionPath state city ≠ Key.path row.key := by
  intro same
  simp only [positionPath, Key.path, PriceRow.key, List.cons.injEq] at same
  exact fuel same.2.2.1.symm

namespace PriceRow

/-- The position of the city, if the row has both coordinates. -/
def position? (row : PriceRow) : Option Json :=
  match row.latitude, row.longitude with
  | some latitude, some longitude => some (positionFields latitude longitude)
  | _, _ => none

/-- What a row puts at the end of which path. -/
def writes (row : PriceRow) : List (List String × Json) :=
  (Key.path row.key, .float (roundTo 2 row.price)) ::
    row.position?.toList.map fun position => (positionPath row.state row.city, position)

theorem mem_writes {row : PriceRow} {write : List String × Json} :
    write ∈ row.writes ↔ write = (Key.path row.key, .float (roundTo 2 row.price)) ∨
      ∃ position, row.position? = some position ∧
        write = (positionPath row.state row.city, position) := by
  simp only [writes, List.mem_cons, List.mem_map, Option.mem_toList, eq_comm]

theorem length_of_mem_writes {row : PriceRow} {write : List String × Json}
    (member : write ∈ row.writes) : write.1.length = 3 := by
  obtain rfl | ⟨position, -, rfl⟩ := mem_writes.mp member <;> rfl

/-- Whether a data set has a price for what a row is about. -/
def isIn (row : PriceRow) (document : Json) : Bool :=
  (document.follow? (Key.path row.key)).isSome

end PriceRow

/-- A data set with room for a row: what is on the way to its price are objects. -/
structure Room (document : Json) (row : PriceRow) (states cities values : Fields) : Prop where
  /-- The data set is an object. -/
  root : document = .object states
  /-- The state is an object, or not there yet. -/
  state : (states.find? row.state).getD (.object []) = .object cities
  /-- The city is an object, or not there yet. -/
  city : (cities.find? row.city).getD (.object []) = .object values

section

variable {document after : Json} {row : PriceRow} {states cities values : Fields}

theorem Room.follow? (room : Room document row states cities values) :
    document.follow? (Key.path row.key) = values.find? row.fuel := by
  obtain ⟨rfl, state, city⟩ := room
  have inCity : (Json.object values).follow? [row.fuel] = values.find? row.fuel := by
    simp [Json.follow?]
  rw [← inCity, ← city, follow?_getD_empty _ (by simp)]
  change _ = (Json.object cities).follow? [row.city, row.fuel]
  rw [← state, follow?_getD_empty _ (by simp)]
  rfl

/-- The data set after a row for which there is room. -/
theorem Room.graftAll? (room : Room document row states cities values) :
    graftAll? document row.writes =
      some (.object (states.put row.state
        (.object (cities.put row.city (.object (putPrice row values)))))) := by
  obtain ⟨rfl, state, city⟩ := room
  have priced : graft? (.float (roundTo 2 row.price)) (.object states) (Key.path row.key) =
      some (.object (states.put row.state (.object (cities.put row.city
        (.object (values.put row.fuel (.float (roundTo 2 row.price)))))))) := by
    simp only [Key.path, PriceRow.key, graft?, state, city, Option.map_some]
  cases latitude : row.latitude with
  | none => simp [PriceRow.writes, PriceRow.position?, latitude, Json.graftAll?, priced, putPrice]
  | some north =>
      cases longitude : row.longitude with
      | none =>
          simp [PriceRow.writes, PriceRow.position?, latitude, longitude, Json.graftAll?, priced,
            putPrice]
      | some east =>
          simp [PriceRow.writes, PriceRow.position?, latitude, longitude, Json.graftAll?, priced,
            putPrice, positionPath, graft?, Fields.find?_put, Fields.put_put]

theorem exists_room_of_graft? {value : Json}
    (grafted : graft? value document (Key.path row.key) = some after) :
    ∃ states cities values, Room document row states cities values := by
  obtain ⟨states, state, root, inState, -⟩ := graft?_cons_eq_some grafted
  obtain ⟨cities, city, isState, inCity, -⟩ := graft?_cons_eq_some inState
  obtain ⟨values, -, isCity, -, -⟩ := graft?_cons_eq_some inCity
  exact ⟨states, cities, values, root, isState, isCity⟩

theorem exists_room_of_graftAll? (grafted : Json.graftAll? document row.writes = some after) :
    ∃ states cities values, Room document row states cities values := by
  obtain ⟨priced, step, -⟩ := Option.bind_eq_some_iff.mp grafted
  exact exists_room_of_graft? step

end

namespace Merged

/-- A data set with the counts after a row. -/
def counted (merged : Merged) (row : PriceRow) (document : Json) : Merged :=
  if row.isIn merged.document then { merged with document, updated := merged.updated + 1 }
  else { merged with document, added := merged.added + 1 }

variable {merged merged' : Merged} {row : PriceRow} {states cities values : Fields}

@[simp] theorem counted_document (merged : Merged) (row : PriceRow) (document : Json) :
    (merged.counted row document).document = document := by
  unfold counted
  split <;> rfl

theorem add_of_room (room : Room merged.document row states cities values) :
    merged.add row = .ok (merged.counted row (.object (states.put row.state
      (.object (cities.put row.city (.object (putPrice row values))))))) := by
  have present : row.isIn merged.document = Fields.has values row.fuel := by
    rw [PriceRow.isIn, room.follow?, Fields.has]
  obtain ⟨root, state, city⟩ := room
  have first : openMember merged.document row.state = .ok (states, .object cities) := by
    rw [root, ← state]
    rfl
  have second : openMember (.object cities) row.city = .ok (cities, .object values) := by
    rw [← city]
    rfl
  rw [add, first, ok_bind]
  simp only [second, ok_bind, counted, present]
  split <;> rfl

theorem exists_room_of_add (added : merged.add row = .ok merged') :
    ∃ states cities values, Room merged.document row states cities values := by
  obtain ⟨document, addedBefore, updatedBefore⟩ := merged
  simp only [add] at added
  cases document with
  | object states =>
      simp only [openMember, ok_bind] at added
      cases state : (states.lookup row.state).getD (.object []) with
      | object cities =>
          simp only [state, ok_bind] at added
          cases city : (cities.lookup row.city).getD (.object []) with
          | object values => exact ⟨states, cities, values, rfl, state, city⟩
          | null | bool | int | float | text | list =>
              simp only [city] at added
              exact absurd added (by simp [throw, throwThe, MonadExceptOf.throw])
      | null | bool | int | float | text | list =>
          simp only [state, error_bind] at added
          exact absurd added (by simp)
  | null | bool | int | float | text | list =>
      simp only [openMember, error_bind] at added
      exact absurd added (by simp)

/-- A row is merged by putting its values into the data set, and counted by what was there. -/
theorem add_eq_ok_iff : merged.add row = .ok merged' ↔
    ∃ document, graftAll? merged.document row.writes = some document ∧
      merged' = merged.counted row document := by
  constructor
  · intro added
    obtain ⟨states, cities, values, room⟩ := exists_room_of_add added
    rw [add_of_room room] at added
    exact ⟨_, room.graftAll?, (Except.ok.inj added).symm⟩
  · rintro ⟨document, grafted, rfl⟩
    obtain ⟨states, cities, values, room⟩ := exists_room_of_graftAll? grafted
    rw [add_of_room room]
    rw [room.graftAll?] at grafted
    rw [Option.some.inj grafted]

/-- A row can be merged just when the path to its price is open. -/
theorem exists_add_iff :
    (∃ merged', merged.add row = .ok merged') ↔ Open merged.document (Key.path row.key) := by
  constructor
  · rintro ⟨merged', added⟩
    obtain ⟨document, grafted, -⟩ := add_eq_ok_iff.mp added
    obtain ⟨priced, step, -⟩ := Option.bind_eq_some_iff.mp grafted
    exact exists_graft?_iff.mp ⟨priced, step⟩
  · intro opened
    obtain ⟨after, grafted⟩ :
        ∃ after, graft? .null merged.document (Key.path row.key) = some after :=
      exists_graft?_iff.mpr opened
    obtain ⟨states, cities, values, room⟩ := exists_room_of_graft? grafted
    exact ⟨_, add_of_room room⟩

end Merged

theorem isIn_graftAll?_writes {document after : Json} {row other : PriceRow}
    (grafted : graftAll? document row.writes = some after) (different : row.key ≠ other.key)
    (fuel : other.fuel ≠ "location") : other.isIn after = other.isIn document := by
  have apart : ∀ write ∈ row.writes, Apart write.1 (Key.path other.key) := by
    intro write member
    obtain rfl | ⟨position, -, rfl⟩ := PriceRow.mem_writes.mp member
    · exact Key.path_apart different
    · exact apart_of_length_eq rfl (positionPath_ne_path fuel row.state row.city)
  rw [PriceRow.isIn, PriceRow.isIn, follow?_graftAll?_apart grafted apart]

section

variable {merged merged' : Merged} {rows : List PriceRow}

theorem graftAll?_of_foldlM_add (completed : rows.foldlM Merged.add merged = .ok merged') :
    graftAll? merged.document (rows.flatMap PriceRow.writes) = some merged'.document := by
  induction rows generalizing merged with
  | nil =>
      obtain rfl : merged = merged' := Except.ok.inj completed
      rfl
  | cons row more induction =>
      cases added : merged.add row with
      | error fault => simp [added] at completed
      | ok next =>
          rw [List.foldlM_cons, added, ok_bind] at completed
          obtain ⟨document, grafted, rfl⟩ := Merged.add_eq_ok_iff.mp added
          rw [List.flatMap_cons, graftAll?_append, grafted, Option.bind_some,
            ← induction completed, Merged.counted_document]

/-- Rows can be merged just when the paths to their prices are open. -/
theorem exists_foldlM_add_iff : (∃ merged', rows.foldlM Merged.add merged = .ok merged') ↔
    ∀ row ∈ rows, Open merged.document (Key.path row.key) := by
  induction rows generalizing merged with
  | nil => exact iff_of_true ⟨merged, rfl⟩ fun row member => absurd member List.not_mem_nil
  | cons row more induction =>
      rw [List.forall_mem_cons, ← Merged.exists_add_iff, List.foldlM_cons]
      cases added : merged.add row with
      | error fault => simp
      | ok next =>
          obtain ⟨document, grafted, rfl⟩ := Merged.add_eq_ok_iff.mp added
          rw [ok_bind, induction, Merged.counted_document]
          have still : ∀ other : PriceRow, Open document (Key.path other.key) ↔
              Open merged.document (Key.path other.key) := fun other =>
            open_graftAll?_iff grafted fun write member =>
              (PriceRow.length_of_mem_writes member).trans rfl
          simp only [still, Except.ok.injEq, exists_eq', true_and]

/-- Rows with different keys are counted by what was there before the first of them. -/
theorem counts_of_foldlM_add (completed : rows.foldlM Merged.add merged = .ok merged')
    (distinct : (rows.map PriceRow.key).Nodup) (fuels : ∀ row ∈ rows, row.fuel ≠ "location") :
    merged'.updated = merged.updated + rows.countP (·.isIn merged.document) ∧
      merged'.added = merged.added + rows.countP (!·.isIn merged.document) := by
  induction rows generalizing merged with
  | nil =>
      obtain rfl : merged = merged' := Except.ok.inj completed
      exact ⟨rfl, rfl⟩
  | cons row more induction =>
      cases added : merged.add row with
      | error fault => simp [added] at completed
      | ok next =>
          rw [List.foldlM_cons, added, ok_bind] at completed
          obtain ⟨document, grafted, rfl⟩ := Merged.add_eq_ok_iff.mp added
          rw [List.map_cons, List.nodup_cons] at distinct
          obtain ⟨updated, added⟩ := induction completed distinct.2 fun other member =>
            fuels other (List.mem_cons_of_mem row member)
          have same : ∀ other ∈ more,
              other.isIn (merged.counted row document).document = other.isIn merged.document := by
            intro other member
            rw [Merged.counted_document]
            refine isIn_graftAll?_writes grafted (fun same => distinct.1 ?_)
              (fuels other (List.mem_cons_of_mem row member))
            exact same ▸ List.mem_map_of_mem member
          have updates : more.countP (·.isIn (merged.counted row document).document) =
              more.countP (·.isIn merged.document) :=
            List.countP_congr fun other member => by rw [same other member]
          have additions : more.countP (!·.isIn (merged.counted row document).document) =
              more.countP (!·.isIn merged.document) :=
            List.countP_congr fun other member => by rw [same other member]
          rw [updated, added, updates, additions]
          unfold Merged.counted
          cases present : row.isIn merged.document <;> simp [present, Nat.add_assoc, Nat.add_comm]

end

end JourneyCost.Upkeep
