import RpcTransport.Guard.Guard
import RpcTransport.Proofs.Text.Decimal

/-! # Sets of ports

A set of allowed ports is determined by its members. So it does not matter in which order
ports are put into it, or how often. The reserved port is no number but its decimal form.
-/

namespace RpcTransport

theorem toString_eq_reserved {number : Nat} :
    toString number = reservedWebPort ↔ number = 80 := by
  constructor
  · intro same
    have spells : Decimal.Spells reservedWebPort.toList number :=
      same ▸ Decimal.spells_toString number
    exact spells.unique (.toDigits 80)
  · rintro rfl
    rfl

namespace AllowedPorts

theorem nodup_toList (ports : AllowedPorts) : ports.toList.Nodup := by
  refine List.Pairwise.imp ?_ ports.ascending
  rintro port _ before rfl
  exact String.lt_irrefl _ before

theorem eq_of_mem_iff {ports others : AllowedPorts}
    (same : ∀ port, port ∈ ports.toList ↔ port ∈ others.toList) : ports = others := by
  obtain ⟨members, ascending⟩ := ports
  obtain ⟨otherMembers, otherAscending⟩ := others
  congr
  have reordered := (List.perm_ext_iff_of_nodup (nodup_toList ⟨members, ascending⟩)
    (nodup_toList ⟨otherMembers, otherAscending⟩)).mpr same
  exact reordered.eq_of_pairwise
    (fun _ _ _ _ before behind => absurd behind (String.lt_asymm before)) ascending otherAscending

theorem mem_ofList (list : List String) (port : String) :
    port ∈ (ofList list).toList ↔ port ∈ list := by
  have grown (ports : AllowedPorts) :
      port ∈ (list.foldl insert ports).toList ↔ port ∈ ports.toList ∨ port ∈ list := by
    induction list generalizing ports with
    | nil => simp
    | cons head rest ih =>
        rw [List.foldl_cons, ih, mem_insert, List.mem_cons, or_assoc, or_left_comm]
  simpa [ofList, empty] using grown empty

theorem ofPorts_eq_of_mem_iff {list : List String} (short : list.length ≤ 100)
    {ports : AllowedPorts} (same : ∀ port, port ∈ list ↔ port ∈ ports.toList) :
    ofPorts list = .ok ports := by
  rw [ofPorts, if_neg (by simpa [maxRegisteredServices] using short)]
  exact congrArg Except.ok (eq_of_mem_iff fun port => (mem_ofList list port).trans (same port))

theorem size_insert_le (ports : AllowedPorts) (port : String) :
    (ports.insert port).size ≤ ports.size + 1 := by
  obtain ⟨members, ascending⟩ := ports
  simp only [insert, size]
  clear ascending
  induction members with
  | nil => simp [insertInto]
  | cons head rest ih =>
      rw [insertInto]
      split
      · simp
      · split
        · simp
        · simpa using ih

end AllowedPorts

end RpcTransport
