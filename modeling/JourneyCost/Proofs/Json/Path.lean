import JourneyCost.Json.Value
import Mathlib.Data.List.Induction

/-!
# Paths in documents

A path of names leads from an object to a value inside it.  A value can be put at the end of a
path, with new objects on the way where there is nothing yet.  Then it is found at the end of the
path, all on the way to it are objects, and what lies on no way to it is as it was.
-/

namespace JourneyCost

namespace Fields

variable (fields : Fields) (key : String) (value other : Json)

theorem find?_cons (name : String) :
    Fields.find? ((key, value) :: fields) name =
      if name = key then some value else fields.find? name := by
  by_cases same : name = key
  · simp [find?, same]
  · simp [find?, List.lookup_cons, beq_false_of_ne same, same]

theorem find?_put (name : String) :
    (fields.put key value).find? name = if name = key then some value else fields.find? name := by
  induction fields with
  | nil => exact find?_cons [] key value name
  | cons field rest induction =>
      obtain ⟨k, v⟩ := field
      by_cases here : k = key
      · subst here
        simp only [put, BEq.rfl, if_true, find?_cons]
        split <;> rfl
      · simp only [put, beq_false_of_ne here, Bool.false_eq_true, if_false, find?_cons, induction]
        by_cases same : name = k
        · simp [same, here]
        · simp [same]

theorem put_put : (fields.put key value).put key other = fields.put key other := by
  induction fields with
  | nil => simp [put]
  | cons field rest induction =>
      obtain ⟨k, v⟩ := field
      by_cases here : k = key <;> simp [put, here, induction]

end Fields

namespace Json

/-- The value at the end of a path. -/
def follow? : Json → List String → Option Json
  | value, [] => some value
  | object fields, name :: more => (Fields.find? fields name).bind fun inner => inner.follow? more
  | _, _ :: _ => none

/-- The document with a value put at the end of a path.  What is there already on the way must be
objects. -/
def graft? (value : Json) : Json → List String → Option Json
  | _, [] => some value
  | object fields, name :: more =>
    (graft? value ((Fields.find? fields name).getD (object [])) more).map fun inner =>
      object (Fields.put fields name inner)
  | _, _ :: _ => none

theorem follow?_append (document : Json) (path more : List String) :
    document.follow? (path ++ more) =
      (document.follow? path).bind fun inner => inner.follow? more := by
  induction path generalizing document with
  | nil => rfl
  | cons name rest induction =>
      cases document with
      | object fields =>
          rw [List.cons_append, follow?, follow?, Option.bind_assoc]
          exact Option.bind_congr fun inner _ => induction inner
      | null | bool | int | float | text | list => rfl

theorem follow?_concat_of_object {document : Json} {path : List String} {fields : Fields}
    (leads : document.follow? path = some (object fields)) (name : String) :
    document.follow? (path ++ [name]) = Fields.find? fields name := by
  rw [follow?_append, leads, Option.bind_some, follow?]
  cases Fields.find? fields name <;> rfl

theorem follow?_singleton (fields : Fields) (name : String) :
    (object fields).follow? [name] = Fields.find? fields name := by
  have root : (object fields).follow? [] = some (object fields) := rfl
  exact follow?_concat_of_object root name

/-- At the end of two names is a member of an object that is a member. -/
theorem follow?_pair_eq_some_iff {fields : Fields} {name further : String} {value : Json} :
    (object fields).follow? [name, further] = some value ↔
      ∃ inside, Fields.find? fields name = some (object inside) ∧
        Fields.find? inside further = some value := by
  rw [follow?, Option.bind_eq_some_iff]
  constructor
  · rintro ⟨inner, found, leads⟩
    cases inner with
    | object inside => exact ⟨inside, found, (follow?_singleton inside further).symm.trans leads⟩
    | null | bool | int | float | text | list => cases leads
  · rintro ⟨inside, found, leads⟩
    exact ⟨object inside, found, (follow?_singleton inside further).trans leads⟩

/-- Neither of two paths leads on from the other. -/
def Apart (first second : List String) : Prop := ¬ first <+: second ∧ ¬ second <+: first

theorem apart_cons {name name' : String} {more more' : List String} :
    Apart (name :: more) (name' :: more') ↔ (name = name' → Apart more more') := by
  unfold Apart
  rw [List.cons_prefix_cons, List.cons_prefix_cons]
  by_cases same : name = name'
  · simp [same]
  · simp [same, Ne.symm same]

theorem apart_of_length_eq {first second : List String} (length : first.length = second.length)
    (different : first ≠ second) : Apart first second :=
  ⟨fun way => different (way.eq_of_length length),
    fun way => different (way.eq_of_length length.symm).symm⟩

section

variable {value document after : Json} {path other : List String}

/-- A value can be put at the end of a path with a first name only into an object. -/
theorem graft?_cons_eq_some {name : String} {more : List String}
    (grafted : graft? value document (name :: more) = some after) :
    ∃ fields inner, document = object fields ∧
      graft? value ((Fields.find? fields name).getD (object [])) more = some inner ∧
      after = object (Fields.put fields name inner) := by
  cases document with
  | object fields =>
      rw [graft?, Option.map_eq_some_iff] at grafted
      obtain ⟨inner, step, rfl⟩ := grafted
      exact ⟨fields, inner, rfl, step, rfl⟩
  | null | bool | int | float | text | list => exact absurd grafted (by simp [graft?])

theorem follow?_graft?_self (grafted : graft? value document path = some after) :
    after.follow? path = some value := by
  induction path generalizing document after with
  | nil =>
      obtain rfl : value = after := by simpa [graft?] using grafted
      rfl
  | cons name more induction =>
      obtain ⟨fields, inner, rfl, step, rfl⟩ := graft?_cons_eq_some grafted
      rw [follow?, Fields.find?_put, if_pos rfl, Option.bind_some, induction step]

theorem follow?_empty {path : List String} (further : path ≠ []) :
    (object []).follow? path = none := by
  cases path with
  | nil => exact absurd rfl further
  | cons name more => rfl

theorem follow?_getD_empty (found : Option Json) (further : path ≠ []) :
    (found.getD (object [])).follow? path = found.bind fun inner => inner.follow? path := by
  cases found with
  | none => exact follow?_empty further
  | some inner => rfl

/-- What lies on no way to the end of the path is as it was. -/
theorem follow?_graft?_apart (grafted : graft? value document path = some after)
    (apart : Apart path other) : after.follow? other = document.follow? other := by
  induction path generalizing document after other with
  | nil => exact absurd (List.nil_prefix) apart.1
  | cons name more induction =>
      obtain ⟨fields, inner, rfl, step, rfl⟩ := graft?_cons_eq_some grafted
      cases other with
      | nil => exact absurd (List.nil_prefix) apart.2
      | cons name' rest =>
          rw [follow?, follow?, Fields.find?_put]
          split
          · rename_i same
            have deeper : Apart more rest := apart_cons.mp apart same.symm
            have further : rest ≠ [] := fun nothing => deeper.2 (nothing ▸ List.nil_prefix)
            rw [Option.bind_some, induction step deeper, follow?_getD_empty _ further, same]
          · rfl

/-- All on the way to the end of the path are objects. -/
theorem follow?_graft?_way (grafted : graft? value document path = some after)
    (way : other <+: path) (short : other ≠ path) :
    ∃ fields, after.follow? other = some (object fields) := by
  induction path generalizing document after other with
  | nil => exact absurd (List.prefix_nil.mp way) short
  | cons name more induction =>
      obtain ⟨fields, inner, rfl, step, rfl⟩ := graft?_cons_eq_some grafted
      cases other with
      | nil => exact ⟨Fields.put fields name inner, rfl⟩
      | cons name' rest =>
          obtain ⟨rfl, further⟩ := List.cons_prefix_cons.mp way
          obtain ⟨found, below⟩ := induction step further fun same => short (by rw [same])
          exact ⟨found, by rw [follow?, Fields.find?_put, if_pos rfl, Option.bind_some, below]⟩

end

/-- Whether what is there already on the way to the end of a path are objects. -/
def Open (document : Json) (path : List String) : Prop :=
  ∀ way, way <+: path → way ≠ path → ∀ value, document.follow? way = some value →
    ∃ fields, value = object fields

theorem open_empty (path : List String) : Open (object []) path := by
  intro way _ _ value found
  cases way with
  | nil => exact ⟨[], (Option.some.inj found).symm⟩
  | cons name more => exact absurd found (by simp [follow?_empty])

section

variable {value document after : Json} {path other : List String}

theorem open_cons_iff {fields : Fields} {name : String} {more : List String} :
    Open (object fields) (name :: more) ↔
      Open ((fields.find? name).getD (object [])) more := by
  constructor
  · intro opened way before short value found
    by_cases further : way = []
    · subst further
      obtain rfl : (fields.find? name).getD (object []) = value := Option.some.inj found
      cases inside : fields.find? name with
      | none => exact ⟨[], rfl⟩
      | some inner =>
          refine opened [name] (by simp) (by simpa using short) inner ?_
          simp [follow?, inside]
    · rw [follow?_getD_empty _ further] at found
      exact opened (name :: way) (List.cons_prefix_cons.mpr ⟨rfl, before⟩)
        (fun same => short (List.cons.inj same).2) value found
  · intro opened way before short value found
    cases way with
    | nil => exact ⟨fields, (Option.some.inj found).symm⟩
    | cons name' rest =>
        obtain ⟨rfl, further⟩ := List.cons_prefix_cons.mp before
        obtain ⟨inner, inside, deeper⟩ := Option.bind_eq_some_iff.mp found
        refine opened rest further (fun same => short (by rw [same])) value ?_
        rwa [inside, Option.getD_some]

/-- A value can be put at the end of just the open paths. -/
theorem exists_graft?_iff :
    (∃ after, graft? value document path = some after) ↔ Open document path := by
  induction path generalizing document with
  | nil => exact iff_of_true ⟨value, rfl⟩ fun way before short =>
      absurd (List.prefix_nil.mp before) short
  | cons name more induction =>
      constructor
      · rintro ⟨after, grafted⟩
        obtain ⟨fields, inner, rfl, step, -⟩ := graft?_cons_eq_some grafted
        exact open_cons_iff.mpr (induction.mp ⟨inner, step⟩)
      · intro opened
        obtain ⟨fields, rfl⟩ := opened [] List.nil_prefix (by simp) document rfl
        obtain ⟨inner, step⟩ := induction.mpr (open_cons_iff.mp opened)
        exact ⟨_, by rw [graft?, step, Option.map_some]⟩

/-- Putting a value at the end of a path opens and closes no path of the same length. -/
theorem open_graft?_iff (grafted : graft? value document path = some after)
    (length : path.length = other.length) : Open after other ↔ Open document other := by
  unfold Open
  refine forall_congr' fun way => forall_congr' fun before => forall_congr' fun short => ?_
  have shorter : way.length < path.length := by
    rw [length]
    exact Nat.lt_of_le_of_ne before.length_le fun same => short (before.eq_of_length same)
  by_cases onWay : way <+: path
  · have notWhole : way ≠ path := fun same => absurd (congrArg List.length same) (by omega)
    obtain ⟨fields, found⟩ := follow?_graft?_way grafted onWay notWhole
    refine iff_of_true (fun value now => ⟨fields, ?_⟩)
      (exists_graft?_iff.mp ⟨after, grafted⟩ way onWay notWhole)
    exact Option.some.inj (now.symm.trans found)
  · have apart : Apart path way :=
      ⟨fun onward => absurd onward.length_le (by omega), onWay⟩
    rw [follow?_graft?_apart grafted apart]

end

/-! ## Many values -/

/-- The document with values put at the ends of paths, one after another. -/
def graftAll? (document : Json) (writes : List (List String × Json)) : Option Json :=
  writes.foldlM (fun document write => graft? write.2 document write.1) document

section

variable {document after : Json} {writes : List (List String × Json)} {path : List String}

theorem graftAll?_concat {write : List String × Json} :
    graftAll? document (writes ++ [write]) = some after ↔
      ∃ before, graftAll? document writes = some before ∧
        graft? write.2 before write.1 = some after := by
  rw [graftAll?, List.foldlM_append]
  simp only [List.foldlM_cons, List.foldlM_nil, bind_pure]
  exact Option.bind_eq_some_iff

theorem graftAll?_append {more : List (List String × Json)} :
    graftAll? document (writes ++ more) =
      (graftAll? document writes).bind fun before => graftAll? before more := by
  rw [graftAll?, List.foldlM_append]
  rfl

/-- What each write keeps is kept by all of them. -/
theorem graftAll?_preserves (holds : Json → Prop) (grafted : graftAll? document writes = some after)
    (keeps : ∀ write ∈ writes, ∀ before next, graft? write.2 before write.1 = some next →
      holds before → holds next) (start : holds document) : holds after := by
  induction writes generalizing document with
  | nil =>
      obtain rfl : document = after := Option.some.inj grafted
      exact start
  | cons write writes induction =>
      obtain ⟨next, first, rest⟩ := Option.bind_eq_some_iff.mp grafted
      exact induction rest (fun later member => keeps later (List.mem_cons_of_mem write member))
        (keeps write List.mem_cons_self document next first start)

theorem open_graftAll?_iff (grafted : graftAll? document writes = some after)
    (lengths : ∀ write ∈ writes, write.1.length = path.length) :
    Open after path ↔ Open document path := by
  refine graftAll?_preserves (fun now => Open now path ↔ Open document path) grafted ?_ Iff.rfl
  exact fun write member _ _ step => (open_graft?_iff step (lengths write member)).trans

theorem follow?_graftAll?_apart (grafted : graftAll? document writes = some after)
    (apart : ∀ write ∈ writes, Apart write.1 path) :
    after.follow? path = document.follow? path := by
  refine graftAll?_preserves (fun now => now.follow? path = document.follow? path) grafted ?_ rfl
  exact fun write member _ _ step => (follow?_graft?_apart step (apart write member)).trans

/-- Of the writes that are not apart from a path, the last one decides where the path leads. -/
theorem exists_follow?_graftAll?_eq (grafted : graftAll? document writes = some after)
    (touched : ∃ write ∈ writes, ¬ Apart write.1 path) :
    ∃ write ∈ writes, ¬ Apart write.1 path ∧ ∃ before next,
      graft? write.2 before write.1 = some next ∧ after.follow? path = next.follow? path := by
  induction writes using List.reverseRecOn generalizing after with
  | nil =>
      obtain ⟨write, member, -⟩ := touched
      exact absurd member List.not_mem_nil
  | append_singleton writes last induction =>
      obtain ⟨before, earlier, step⟩ := graftAll?_concat.mp grafted
      by_cases apart : Apart last.1 path
      · have touchedEarlier : ∃ write ∈ writes, ¬ Apart write.1 path := by
          obtain ⟨write, member, meets⟩ := touched
          obtain kept | rfl := List.mem_append.mp member |>.imp id List.mem_singleton.mp
          · exact ⟨write, kept, meets⟩
          · exact absurd apart meets
        obtain ⟨write, member, meets, below, next, decisive, same⟩ :=
          induction earlier touchedEarlier
        exact ⟨write, List.mem_append_left _ member, meets, below, next, decisive,
          (follow?_graft?_apart step apart).trans same⟩
      · exact ⟨last, by simp, apart, before, after, step, rfl⟩

/-- At the end of a path is one of the values that were put there. -/
theorem follow?_graftAll?_mem (grafted : graftAll? document writes = some after)
    (lengths : ∀ write ∈ writes, write.1.length = path.length)
    (someWrite : ∃ write ∈ writes, write.1 = path) :
    ∃ write ∈ writes, write.1 = path ∧ after.follow? path = some write.2 := by
  obtain ⟨write, member, rfl⟩ := someWrite
  obtain ⟨last, member, meets, _, next, step, found⟩ := exists_follow?_graftAll?_eq grafted
    ⟨write, member, fun apart => apart.1 List.prefix_rfl⟩
  have here : last.1 = write.1 := not_not.mp (mt (apart_of_length_eq (lengths last member)) meets)
  exact ⟨last, member, here, found.trans (here ▸ follow?_graft?_self step)⟩

/-- On the way to the ends of longer paths there are objects. -/
theorem follow?_graftAll?_way (grafted : graftAll? document writes = some after)
    (lengths : ∀ write ∈ writes, path.length < write.1.length)
    (someWrite : ∃ write ∈ writes, path <+: write.1) :
    ∃ fields, after.follow? path = some (object fields) := by
  obtain ⟨write, member, onWay⟩ := someWrite
  obtain ⟨last, member, meets, _, next, step, found⟩ := exists_follow?_graftAll?_eq grafted
    ⟨write, member, fun apart => apart.2 onWay⟩
  have longer : path.length < last.1.length := lengths last member
  have way : path <+: last.1 := by
    by_contra aside
    exact meets ⟨fun onward => absurd onward.length_le (by omega), aside⟩
  have notWhole : path ≠ last.1 := fun same => absurd (congrArg List.length same) (by omega)
  exact found ▸ follow?_graft?_way step way notWhole

/-- At the end of a path is nothing but what was put there, if there was nothing before. -/
theorem mem_of_follow?_graftAll?_empty {value : Json}
    (grafted : graftAll? (object []) writes = some after) (further : path ≠ [])
    (lengths : ∀ write ∈ writes, write.1.length = path.length)
    (leads : after.follow? path = some value) : (path, value) ∈ writes := by
  by_cases someWrite : ∃ write ∈ writes, write.1 = path
  · obtain ⟨write, member, here, found⟩ := follow?_graftAll?_mem grafted lengths someWrite
    obtain rfl : write.2 = value := Option.some.inj (found.symm.trans leads)
    exact here ▸ member
  · have apart : ∀ write ∈ writes, Apart write.1 path := fun write member =>
      apart_of_length_eq (lengths write member) fun same => someWrite ⟨write, member, same⟩
    rw [follow?_graftAll?_apart grafted apart, follow?_empty further] at leads
    exact absurd leads (by simp)

/-- Shorter paths lead to objects, if there was nothing before. -/
theorem object_of_follow?_graftAll?_empty {value : Json}
    (grafted : graftAll? (object []) writes = some after)
    (lengths : ∀ write ∈ writes, path.length < write.1.length)
    (leads : after.follow? path = some value) : ∃ fields, value = object fields := by
  by_cases someWrite : ∃ write ∈ writes, path <+: write.1
  · obtain ⟨fields, found⟩ := follow?_graftAll?_way grafted lengths someWrite
    exact ⟨fields, Option.some.inj (leads.symm.trans found)⟩
  · have apart : ∀ write ∈ writes, Apart write.1 path := fun write member =>
      ⟨fun onward => absurd onward.length_le (by have := lengths write member; omega),
        fun way => someWrite ⟨write, member, way⟩⟩
    rw [follow?_graftAll?_apart grafted apart] at leads
    exact open_empty (path ++ [""]) path (List.prefix_append path [""]) (by simp) value leads

end

end Json

end JourneyCost
