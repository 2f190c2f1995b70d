import JourneyCost.Proofs.Json.Distinct

/-!
# Documents that hold what is put

Values can be put at the ends of paths in any order, as long as no two of the paths meet.  So a
document that holds what is put last at the end of each path stays as it is when all is put again.
-/

namespace JourneyCost

namespace Fields

variable {fields : Fields} {key name : String} {value other : Json}

theorem put_of_find? (there : fields.find? key = some value) : fields.put key value = fields := by
  induction fields with
  | nil => cases there
  | cons field rest induction =>
      obtain ⟨k, v⟩ := field
      rw [find?_cons] at there
      by_cases here : key = k
      · rw [if_pos here] at there
        simp [put, here, Option.some.inj there]
      · rw [if_neg here] at there
        simp [put, Ne.symm here, induction there]

/-- Members under two names can be put in either order if there is one under the first name. -/
theorem put_comm (there : (fields.find? key).isSome) (different : key ≠ name) :
    (fields.put key value).put name other = (fields.put name other).put key value := by
  induction fields with
  | nil => cases there
  | cons field rest induction =>
      obtain ⟨k, v⟩ := field
      by_cases here : k = key
      · subst here
        simp [put, different]
      · have further : (find? rest key).isSome := by
          rwa [find?_cons, if_neg (Ne.symm here)] at there
        by_cases same : k = name
        · simp [put, same, Ne.symm different]
        · simp [put, here, same, induction further]

end Fields

namespace Json

section

variable {value other document : Json} {path further : List String}

/-- Putting a value where it is changes nothing. -/
theorem graft?_of_follow? (leads : document.follow? path = some value) :
    graft? value document path = some document := by
  induction path generalizing document with
  | nil => exact leads.symm
  | cons name more induction =>
      cases document with
      | object fields =>
          obtain ⟨inner, found, below⟩ := Option.bind_eq_some_iff.mp leads
          rw [graft?, found, Option.getD_some, induction below, Option.map_some,
            Fields.put_of_find? found]
      | null | bool | int | float | text | list => cases leads

/-- Of two values that are put at the end of one path the last one counts. -/
theorem graft?_bind_graft?_self (value other document : Json) (path : List String) :
    ((graft? value document path).bind fun after => graft? other after path) =
      (graft? value document path).bind fun _ => graft? other document path := by
  induction path generalizing document with
  | nil => rfl
  | cons name more induction =>
      cases document with
      | object fields =>
          specialize induction ((Fields.find? fields name).getD (object []))
          simp only [graft?, Option.bind_map, Function.comp_def, Fields.find?_put, if_true,
            Option.getD_some, Fields.put_put]
          cases first : graft? value ((Fields.find? fields name).getD (object [])) more with
          | none => rfl
          | some after =>
              rw [first, Option.bind_some, Option.bind_some] at induction
              rw [Option.bind_some, Option.bind_some, induction]
      | null | bool | int | float | text | list => rfl

/-- Values can be put at the ends of two paths in either order if the first leads somewhere. -/
theorem graft?_bind_graft?_comm (there : (document.follow? path).isSome)
    (apart : Apart path further) :
    ((graft? value document path).bind fun after => graft? other after further) =
      (graft? other document further).bind fun after => graft? value after path := by
  induction path generalizing document further with
  | nil => exact absurd List.nil_prefix apart.1
  | cons name more induction =>
      cases document with
      | object fields =>
          cases further with
          | nil => exact absurd List.nil_prefix apart.2
          | cons name' more' =>
              obtain ⟨target, leads⟩ := Option.isSome_iff_exists.mp there
              obtain ⟨inner, found, below⟩ := Option.bind_eq_some_iff.mp leads
              simp only [graft?, Option.bind_map, Function.comp_def, Fields.find?_put]
              by_cases same : name = name'
              · subst same
                have both := @induction inner more' (Option.isSome_of_eq_some below)
                  (apart_cons.mp apart rfl)
                simp only [found, if_true, Option.getD_some, Fields.put_put]
                have inside := congrArg
                  (Option.map fun inner => object (Fields.put fields name inner)) both
                rwa [Option.map_bind, Option.map_bind] at inside
              · simp only [if_neg same, if_neg (Ne.symm same)]
                cases graft? value ((Fields.find? fields name).getD (object [])) more with
                | none => simp
                | some first =>
                    simp [Fields.put_comm (Option.isSome_of_eq_some found) same,
                      Option.map_eq_bind]
      | null | bool | int | float | text | list => cases there

theorem open_of_isSome_follow? (there : (document.follow? path).isSome) : Open document path := by
  intro way before short here leads
  obtain ⟨rest, rfl⟩ := before
  rw [follow?_append, leads, Option.bind_some] at there
  cases rest with
  | nil => exact absurd (List.append_nil way).symm short
  | cons name more =>
      cases here with
      | object fields => exact ⟨fields, rfl⟩
      | null | bool | int | float | text | list => cases there

/-- A path leads somewhere after a value was put at the end of a path of the same length. -/
theorem isSome_follow?_graft? {after : Json} (grafted : graft? value document further = some after)
    (length : further.length = path.length) (there : (document.follow? path).isSome) :
    (after.follow? path).isSome := by
  by_cases here : further = path
  · rw [← here, follow?_graft?_self grafted]
    rfl
  · rwa [follow?_graft?_apart grafted (apart_of_length_eq length here)]

end

section

variable {document after : Json} {writes : List (List String × Json)} {write : List String × Json}

theorem isSome_follow?_graftAll? {path : List String}
    (grafted : graftAll? document writes = some after)
    (lengths : ∀ write ∈ writes, write.1.length = path.length)
    (there : (document.follow? path).isSome) : (after.follow? path).isSome := by
  refine graftAll?_preserves (fun now => (now.follow? path).isSome) grafted ?_ there
  exact fun write member _ _ step => isSome_follow?_graft? step (lengths write member)

theorem graftAll?_cons : graftAll? document (write :: writes) =
    (graft? write.2 document write.1).bind fun after => graftAll? after writes :=
  rfl

/-- A value need not be put at the end of a path where another one is put later. -/
theorem graftAll?_cons_of_mem (there : (document.follow? write.1).isSome)
    (lengths : ∀ later ∈ writes, later.1.length = write.1.length)
    (again : write.1 ∈ writes.map Prod.fst) :
    graftAll? document (write :: writes) = graftAll? document writes := by
  induction writes generalizing document with
  | nil => cases again
  | cons next more induction =>
      obtain ⟨after, grafted⟩ : ∃ after, graft? write.2 document write.1 = some after :=
        exists_graft?_iff.mpr (open_of_isSome_follow? there)
      by_cases here : next.1 = write.1
      · have last := graft?_bind_graft?_self write.2 next.2 document write.1
        rw [grafted, Option.bind_some, Option.bind_some] at last
        rw [graftAll?_cons, grafted, Option.bind_some, graftAll?_cons, graftAll?_cons, here, last]
      · have apart : Apart write.1 next.1 :=
          apart_of_length_eq (lengths next List.mem_cons_self).symm (Ne.symm here)
        have later : write.1 ∈ more.map Prod.fst :=
          (List.mem_cons.mp again).resolve_left (Ne.symm here)
        -- The next value is put first, and then the rest is shorter.
        have swapped : graft? next.2 after next.1 =
            (graft? next.2 document next.1).bind fun between =>
              graft? write.2 between write.1 := by
          rw [← graft?_bind_graft?_comm there apart, grafted, Option.bind_some]
        rw [graftAll?_cons, grafted, Option.bind_some, graftAll?_cons, graftAll?_cons, swapped,
          Option.bind_assoc]
        refine Option.bind_congr fun between step => ?_
        rw [← graftAll?_cons]
        exact induction
          (isSome_follow?_graft? step (lengths next List.mem_cons_self) there)
          (fun other member => lengths other (List.mem_cons_of_mem next member)) later

/-- Whether at the end of each path is what is put there last. -/
def Settled (document : Json) : List (List String × Json) → Prop
  | [] => True
  | write :: later =>
    (write.1 ∈ later.map Prod.fst ∨ document.follow? write.1 = some write.2) ∧
      document.Settled later

theorem settled_of_graftAll? {length : Nat} (grafted : graftAll? document writes = some after)
    (lengths : ∀ write ∈ writes, write.1.length = length) : after.Settled writes := by
  induction writes generalizing document with
  | nil => trivial
  | cons write later induction =>
      obtain ⟨between, step, rest⟩ := Option.bind_eq_some_iff.mp grafted
      rw [List.forall_mem_cons] at lengths
      refine ⟨or_iff_not_imp_left.mpr fun last => ?_, induction rest lengths.2⟩
      rw [follow?_graftAll?_apart rest fun other member => ?_, follow?_graft?_self step]
      refine apart_of_length_eq ((lengths.2 other member).trans lengths.1.symm) fun same => ?_
      exact last (List.mem_map.mpr ⟨other, member, same⟩)

theorem Settled.sorted (settled : document.Settled writes) (distinct : document.Distinct)
    (inOrder : ∀ write ∈ writes, write.2.sorted = write.2) : document.sorted.Settled writes := by
  induction writes with
  | nil => trivial
  | cons write later induction =>
      rw [List.forall_mem_cons] at inOrder
      refine ⟨settled.1.imp_right fun leads => ?_, induction settled.2 inOrder.2⟩
      rw [follow?_sorted distinct, leads, Option.map_some, inOrder.1]

theorem Settled.isSome (settled : document.Settled writes) {path : List String}
    (member : path ∈ writes.map Prod.fst) : (document.follow? path).isSome := by
  induction writes with
  | nil => cases member
  | cons write later induction =>
      obtain rfl | member := List.mem_cons.mp member
      · obtain again | leads := settled.1
        · exact induction settled.2 again
        · exact Option.isSome_of_eq_some leads
      · exact induction settled.2 member

/-- What holds all that is put stays as it is when it is put again. -/
theorem Settled.graftAll? {length : Nat} (settled : document.Settled writes)
    (lengths : ∀ write ∈ writes, write.1.length = length) :
    Json.graftAll? document writes = some document := by
  induction writes with
  | nil => rfl
  | cons write later induction =>
      have there := settled.isSome List.mem_cons_self
      rw [List.forall_mem_cons] at lengths
      obtain again | leads := settled.1
      · rw [graftAll?_cons_of_mem there
          (fun other member => (lengths.2 other member).trans lengths.1.symm) again]
        exact induction settled.2 lengths.2
      · rw [graftAll?_cons, graft?_of_follow? leads, Option.bind_some]
        exact induction settled.2 lengths.2

end

/-- A document whose members are in order stays as it is when they are put in order. -/
theorem sorted_sorted {document : Json} (readable : document.Readable) :
    document.sorted.sorted = document.sorted := by
  induction readable with
  | null | bool | int | float | text => rfl
  | list _ induction =>
      simp only [sorted, sortedItems_eq_map, List.map_map]
      exact congrArg list (List.map_congr_left induction)
  | object names _ induction =>
      refine sorted_object_of_ascending (pairwise_orderedFields names) fun field member => ?_
      obtain ⟨inner, before, same⟩ := mem_orderedFields.mp member
      exact same ▸ induction _ before

end Json

end JourneyCost
