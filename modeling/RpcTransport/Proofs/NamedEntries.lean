import Mathlib.Data.List.Basic

/-! # Entries under names

A list of entries in which no name occurs twice: an entry is found under its name just if it
is there, and taking the entry of a name out leaves the others in place.
-/

namespace RpcTransport

variable {α : Type} {entries : List (String × α)} {name : String} {value : α}

theorem lookup_eq_some_iff_mem_of_nodup (distinct : (entries.map (·.1)).Nodup) :
    entries.lookup name = some value ↔ (name, value) ∈ entries := by
  constructor
  · intro found
    obtain ⟨before, behind, rfl, -⟩ := List.lookup_eq_some_iff.mp found
    exact List.mem_append_right _ List.mem_cons_self
  · intro member
    obtain ⟨before, behind, rfl⟩ := List.append_of_mem member
    refine List.lookup_eq_some_iff.mpr ⟨before, behind, rfl, fun entry earlier => ?_⟩
    simp only [List.map_append, List.map_cons] at distinct
    have apart := (List.nodup_append.mp distinct).2.2 entry.1 (List.mem_map_of_mem earlier) name
      List.mem_cons_self
    exact bne_iff_ne.mpr apart.symm

theorem exists_filter_of_lookup (distinct : (entries.map (·.1)).Nodup)
    (found : entries.lookup name = some value) :
    ∃ before behind, entries = before ++ (name, value) :: behind ∧
      entries.filter (fun entry => entry.1 ≠ name) = before ++ behind := by
  obtain ⟨before, behind, rfl, others⟩ := List.lookup_eq_some_iff.mp found
  refine ⟨before, behind, rfl, ?_⟩
  have front : before.filter (fun entry => entry.1 ≠ name) = before := by
    apply List.filter_eq_self.mpr
    intro entry member
    exact decide_eq_true (bne_iff_ne.mp (others entry member)).symm
  have back : behind.filter (fun entry => entry.1 ≠ name) = behind := by
    apply List.filter_eq_self.mpr
    intro entry member
    simp only [List.map_append, List.map_cons] at distinct
    have absent := (List.nodup_cons.mp (List.nodup_append.mp distinct).2.1).1
    exact decide_eq_true fun same => absent (same ▸ List.mem_map_of_mem member)
  rw [List.filter_append, List.filter_cons_of_neg (by simp), front, back]

theorem filter_of_lookup_eq_none (missing : entries.lookup name = none) :
    entries.filter (fun entry => entry.1 ≠ name) = entries := by
  apply List.filter_eq_self.mpr
  intro entry member
  have apart := List.lookup_eq_none_iff.mp missing entry member
  exact decide_eq_true (bne_iff_ne.mp apart).symm

theorem lookup_filter_ne (entries : List (String × α)) (name other : String) :
    (entries.filter fun entry => entry.1 ≠ name).lookup other =
      if other = name then none else entries.lookup other := by
  by_cases same : other = name
  · rw [if_pos same, List.lookup_eq_none_iff, same]
    intro entry member
    exact bne_iff_ne.mpr (of_decide_eq_true (List.mem_filter.mp member).2).symm
  · rw [if_neg same]
    induction entries with
    | nil => rfl
    | cons entry rest ih =>
        by_cases taken : entry.1 = name
        · rw [List.filter_cons_of_neg (by simpa using taken), ih, List.lookup_cons, taken,
            beq_eq_false_iff_ne.mpr same]
        · rw [List.filter_cons_of_pos (by simpa using taken), List.lookup_cons, ih,
            List.lookup_cons]

end RpcTransport
