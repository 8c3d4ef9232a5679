import RpcTransport.Json.Value
import RpcTransport.Proofs.NamedEntries

/-! # The fields of an object

The names of the fields of an object are in strictly ascending order. So each name stands
there at most once, a field is there just if its name is looked up to its value, and the
order in which the members were written does not show. No name is lost, and of the values
written under it the last one counts.
-/

namespace RpcTransport.Json

variable {α : Type}

theorem pairwise_insertField {name : String} {value : α} {fields : List (String × α)}
    (ascending : fields.Pairwise (·.1 < ·.1)) :
    (insertField name value fields).Pairwise (·.1 < ·.1) := by
  induction fields with
  | nil => exact List.pairwise_singleton _ _
  | cons head rest ih =>
      obtain ⟨first, tail⟩ := List.pairwise_cons.mp ascending
      rw [insertField]
      split
      · next before =>
          refine List.pairwise_cons.mpr ⟨fun field member => ?_, ascending⟩
          rcases List.mem_cons.mp member with rfl | later
          · exact before
          · exact String.lt_trans before (first field later)
      · next notBefore =>
          split
          · next same => exact List.pairwise_cons.mpr ⟨same ▸ first, tail⟩
          · next other =>
              refine List.pairwise_cons.mpr ⟨fun field member => ?_, ih tail⟩
              rcases mem_insertField member with rfl | later
              · apply Decidable.byContradiction
                intro notBehind
                exact other (String.le_antisymm (String.not_lt.mp notBehind)
                  (String.not_lt.mp notBefore))
              · exact first field later

theorem pairwise_sortFields (members : List (String × α)) :
    (sortFields members).Pairwise (·.1 < ·.1) := by
  have sorted : ∀ fields : List (String × α), fields.Pairwise (·.1 < ·.1) →
      (members.foldl (fun fields member => insertField member.1 member.2 fields)
        fields).Pairwise (·.1 < ·.1) := by
    induction members with
    | nil => exact fun fields ascending => ascending
    | cons member rest ih => exact fun fields ascending => ih _ (pairwise_insertField ascending)
  exact sorted [] .nil

/-- Of the values written under a name the last one is found. -/
theorem lookup_sortFields (members : List (String × α)) (name : String) :
    (sortFields members).lookup name = members.reverse.lookup name := by
  have found : ∀ fields : List (String × α),
      (members.foldl (fun fields member => insertField member.1 member.2 fields) fields).lookup
          name = (members.reverse.lookup name).or (fields.lookup name) := by
    induction members with
    | nil =>
        intro fields
        rfl
    | cons member rest ih =>
        intro fields
        rw [List.foldl_cons, ih, lookup_insertField, List.reverse_cons, List.lookup_append,
          Option.or_assoc, List.lookup_cons, List.lookup_nil]
        by_cases same : name = member.1
        · simp [same]
        · rw [if_neg same, beq_eq_false_iff_ne.mpr same]
          rfl
  rw [sortFields, found, List.lookup_nil, Option.or_none]

theorem isSome_lookup_iff {fields : List (String × α)} {name : String} :
    (fields.lookup name).isSome = true ↔ name ∈ fields.map (·.1) := by
  simp only [List.lookup_isSome_iff, beq_iff_eq, List.mem_map]
  exact exists_congr fun field => and_congr_right fun _ => eq_comm

theorem mem_names_sortFields {members : List (String × α)} {name : String} :
    name ∈ (sortFields members).map (·.1) ↔ name ∈ members.map (·.1) := by
  rw [← isSome_lookup_iff, lookup_sortFields, isSome_lookup_iff, List.map_reverse,
    List.mem_reverse]

theorem nodup_names_sortFields (members : List (String × α)) :
    ((sortFields members).map (·.1)).Nodup := by
  rw [List.Nodup, List.pairwise_map]
  apply List.Pairwise.imp _ (pairwise_sortFields members)
  intro first second before same
  exact String.lt_irrefl _ (same ▸ before)

theorem mem_insertField_iff {name : String} {fields : List (String × α)}
    (fresh : ∀ field ∈ fields, field.1 ≠ name) (value : α) (field : String × α) :
    field ∈ insertField name value fields ↔ field = (name, value) ∨ field ∈ fields := by
  induction fields with
  | nil => simp [insertField]
  | cons head rest ih =>
      obtain ⟨other, later⟩ := List.forall_mem_cons.mp fresh
      rw [insertField]
      split
      · rw [List.mem_cons]
      · rw [if_neg (Ne.symm other), List.mem_cons, List.mem_cons, ih later, or_left_comm]

theorem mem_sortFields_iff {members : List (String × α)}
    (distinct : (members.map (·.1)).Nodup) (field : String × α) :
    field ∈ sortFields members ↔ field ∈ members := by
  have grown : ∀ fields : List (String × α),
      (∀ member ∈ members, ∀ old ∈ fields, old.1 ≠ member.1) →
        (field ∈ members.foldl (fun fields member => insertField member.1 member.2 fields) fields ↔
          field ∈ fields ∨ field ∈ members) := by
    induction members with
    | nil => simp
    | cons member rest ih =>
        intro fields fresh
        obtain ⟨apart, distinct⟩ := List.nodup_cons.mp distinct
        obtain ⟨first, others⟩ := List.forall_mem_cons.mp fresh
        have inserted := mem_insertField_iff first member.2
        rw [List.foldl_cons, ih distinct, inserted, List.mem_cons, or_assoc, or_left_comm]
        intro other later old present
        rcases (inserted old).mp present with rfl | earlier
        · exact fun same => apart (List.mem_map.mpr ⟨other, later, same.symm⟩)
        · exact others other later old earlier
  simpa [sortFields] using grown [] (by simp)

theorem sortFields_eq_of_perm {members others : List (String × α)}
    (distinct : (members.map (·.1)).Nodup) (reordered : others.Perm members) :
    sortFields others = sortFields members := by
  have alike : (others.map (·.1)).Nodup := (reordered.map _).nodup_iff.mpr distinct
  have first := pairwise_sortFields others
  have second := pairwise_sortFields members
  have nodup {fields : List (String × α)} (ascending : fields.Pairwise (·.1 < ·.1)) :
      fields.Nodup := by
    refine List.Pairwise.imp ?_ ascending
    rintro field _ before rfl
    exact String.lt_irrefl _ before
  refine List.Perm.eq_of_pairwise (fun _ _ _ _ before behind => ?_) first second ?_
  · exact absurd behind (String.lt_asymm before)
  · refine (List.perm_ext_iff_of_nodup (nodup first) (nodup second)).mpr fun field => ?_
    rw [mem_sortFields_iff alike, mem_sortFields_iff distinct, reordered.mem_iff]

namespace Value

theorem get?_object (members : List (String × Value)) (name : String) :
    (object members).get? name = members.reverse.lookup name :=
  lookup_sortFields members name

theorem get?_concat (members : List (String × Value)) (name other : String) (value : Value) :
    (object (members ++ [(name, value)])).get? other =
      if other = name then some value else (object members).get? other := by
  rw [get?_object, get?_object, List.reverse_append, List.reverse_singleton,
    List.singleton_append, List.lookup_cons]
  by_cases same : other = name
  · simp [same]
  · rw [if_neg same, beq_eq_false_iff_ne.mpr same]

theorem pairwise_fields {root : Value} {fields : List (String × Value)}
    (object : root.fields? = some fields) : fields.Pairwise (·.1 < ·.1) := by
  cases root with
  | object members =>
      cases object
      exact pairwise_sortFields members
  | _ => cases object

theorem get?_eq_some_iff {root value : Value} {name : String} :
    root.get? name = some value ↔
      ∃ fields, root.fields? = some fields ∧ (name, value) ∈ fields := by
  cases root with
  | object members =>
      have distinct := nodup_names_sortFields members
      simp [get?, fields?, lookup_eq_some_iff_mem_of_nodup distinct]
  | _ => simp [get?, fields?]

end Value

end RpcTransport.Json
