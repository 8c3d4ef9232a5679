import RpcTransport.Proofs.Guard.PortSets
import RpcTransport.Proofs.Guard.Registry
import RpcTransport.Proofs.Text.ByteOrder

/-! # What is collected from a registry

The ports of a registry are collected all or not at all: one hosting address that is not text
spoils the whole registry. Which ports come of it depends on the entries alone and not on
their order; the order only decides which entry is blamed.
-/

namespace RpcTransport

open Json (Value)

namespace AllowedPorts

theorem size_declare_le (ports : AllowedPorts) (entry : Value) :
    (ports.declare entry).size ≤ ports.size + 1 := by
  rw [declare]
  cases declaredPort? entry with
  | none => exact Nat.le_succ _
  | some port => exact ports.size_insert_le port

theorem mem_declareAll_empty {entries : List (String × Value)} {port : String} :
    port ∈ (empty.declareAll entries).toList ↔ ∃ field ∈ entries, Declares field.2 port := by
  simp [mem_declareAll, empty]

theorem size_declareAll_le (ports : AllowedPorts) (entries : List (String × Value)) :
    (ports.declareAll entries).size ≤ ports.size + entries.length := by
  induction entries generalizing ports with
  | nil => exact Nat.le_refl _
  | cons field rest ih =>
      have first := ports.size_declare_le field.2
      have others := ih (ports.declare field.2)
      rw [declareAll, List.foldl_cons, ← declareAll, List.length_cons]
      omega

theorem ofRegistry_of_fields {registry : Value} {fields : List (String × Value)}
    (object : registry.fields? = some fields) :
    ofRegistry registry =
      if 100 < fields.length then (.error (.tooManyServices fields.length 100), [])
      else addEntries empty fields := by
  simp only [ofRegistry, object, maxRegisteredServices]
  rfl

theorem ofRegistry_eq_ok_iff {registry : Value} {ports : AllowedPorts} :
    (ofRegistry registry).1 = .ok ports ↔
      ∃ fields, registry.fields? = some fields ∧ fields.length ≤ 100 ∧
        (∀ field ∈ fields, ¬ Misdeclares field.2) ∧ ports = empty.declareAll fields := by
  constructor
  · intro collected
    cases object : registry.fields? with
    | none => simp [ofRegistry, object] at collected
    | some fields =>
        rw [ofRegistry_of_fields object] at collected
        split at collected
        · cases collected
        · next small =>
            exact ⟨fields, rfl, Nat.not_lt.mp small, addEntries_eq_ok_iff.mp collected⟩
  · rintro ⟨fields, object, small, sound, rfl⟩
    rw [ofRegistry_of_fields object, if_neg (Nat.not_lt.mpr small), addEntries_of_sound sound]

theorem eq_of_ofRegistry {registry : Value} {fields : List (String × Value)}
    {ports : AllowedPorts} (object : registry.fields? = some fields)
    (collected : (ofRegistry registry).1 = .ok ports) :
    fields.length ≤ 100 ∧ (∀ field ∈ fields, ¬ Misdeclares field.2) ∧
      ports = empty.declareAll fields := by
  obtain ⟨_, same, found⟩ := ofRegistry_eq_ok_iff.mp collected
  cases object.symm.trans same
  exact found

/-- The entry that is blamed has the first name of those that are not sound. -/
theorem ofRegistry_of_first {registry : Value} {fields : List (String × Value)}
    (object : registry.fields? = some fields) (small : fields.length ≤ 100)
    (spoilt : ∃ field ∈ fields, Misdeclares field.2) :
    ∃ service entry, (service, entry) ∈ fields ∧ Misdeclares entry ∧
      (∀ field ∈ fields, Misdeclares field.2 → field = (service, entry) ∨ service < field.1) ∧
      (ofRegistry registry).1 = .error (misdeclared service) := by
  have ascending := Value.pairwise_fields object
  rcases sound_or_first fields with sound | ⟨before, service, entry, behind, rfl, sound, first⟩
  · obtain ⟨field, member, spoilt⟩ := spoilt
    exact absurd spoilt (sound field member)
  · refine ⟨service, entry, List.mem_append_right _ List.mem_cons_self, first, ?_, ?_⟩
    · intro field member spoilt
      rcases List.mem_append.mp member with earlier | later
      · exact absurd spoilt (sound field earlier)
      · rcases List.mem_cons.mp later with same | later
        · exact .inl same
        · have tail := (List.pairwise_append.mp ascending).2.1
          exact .inr ((List.pairwise_cons.mp tail).1 field later)
    · rw [ofRegistry_of_fields object, if_neg (Nat.not_lt.mpr small),
        addEntries_of_first sound first]

structure AllOrNothing (registry : Value) : Prop where
  /-- A registry is an object of at most 100 entries that are all sound. -/
  accepts : (∃ ports, (ofRegistry registry).1 = .ok ports) ↔
    ∃ fields, registry.fields? = some fields ∧ fields.length ≤ 100 ∧
      ∀ field ∈ fields, ¬ Misdeclares field.2
  /-- What is no object, or has no hosting address, declares nothing. -/
  silent (entry : Value) : entry.fields? = none ∨ entry.get? "rpcwebhostUrl" = none →
    ¬ Misdeclares entry ∧ ∀ port, ¬ Declares entry port
  /-- Of a registry that is accepted, the declared ports are collected, and no others. -/
  collects (fields : List (String × Value)) (ports : AllowedPorts) :
    registry.fields? = some fields → (ofRegistry registry).1 = .ok ports →
      (∀ port, port ∈ ports.toList ↔ ∃ field ∈ fields, Declares field.2 port) ∧
        ports.size ≤ 100
  /-- The same ports come of the entries in any other order. -/
  unordered (fields entries : List (String × Value)) (ports : AllowedPorts) :
    registry.fields? = some fields → (ofRegistry registry).1 = .ok ports →
      entries.Perm fields → (addEntries empty entries).1 = .ok ports
  /-- Nor does it matter in which order they are written. -/
  unwritten (members others : List (String × Value)) : registry = .object members →
    (members.map (·.1)).Nodup → others.Perm members →
      ofRegistry (.object others) = ofRegistry registry
  /-- A list of the declared ports gives the same set, in any order and with repetitions. -/
  listed (fields : List (String × Value)) (ports : AllowedPorts) (list : List String) :
    registry.fields? = some fields → (ofRegistry registry).1 = .ok ports →
      (∀ port, port ∈ list ↔ ∃ field ∈ fields, Declares field.2 port) → list.length ≤ 100 →
        ofPorts list = .ok ports
  unstructured : registry.fields? = none →
    ofRegistry registry =
      (.error (.invalidRegistry "expected an object of service entries"), [])
  /-- Of too many entries none is looked at. -/
  crowded (fields : List (String × Value)) : registry.fields? = some fields →
    100 < fields.length → ofRegistry registry = (.error (.tooManyServices fields.length 100), [])
  /-- Of the entries that are not sound, the one with the first name is blamed. -/
  blames (fields : List (String × Value)) : registry.fields? = some fields →
    fields.length ≤ 100 → (∃ field ∈ fields, Misdeclares field.2) →
      ∃ service entry, (service, entry) ∈ fields ∧ Misdeclares entry ∧
        (∀ field ∈ fields, Misdeclares field.2 →
          field = (service, entry) ∨ utf8Bytes service < utf8Bytes field.1) ∧
        (ofRegistry registry).1 =
          .error (.invalidRegistry (service ++ ".rpcwebhostUrl must be a string"))

/-- A registry is collected as a whole, in whatever order its entries stand. -/
theorem ofRegistry_allOrNothing (registry : Value) : AllOrNothing registry := by
  constructor
  case accepts =>
    constructor
    · rintro ⟨ports, collected⟩
      obtain ⟨fields, object, small, sound, -⟩ := ofRegistry_eq_ok_iff.mp collected
      exact ⟨fields, object, small, sound⟩
    · rintro ⟨fields, object, small, sound⟩
      exact ⟨_, ofRegistry_eq_ok_iff.mpr ⟨fields, object, small, sound, rfl⟩⟩
  case silent =>
    rintro entry (unstructured | absent)
    · exact declares_nothing (by rw [Value.get?, unstructured])
    · exact declares_nothing absent
  case collects =>
    intro fields ports object collected
    obtain ⟨small, -, rfl⟩ := eq_of_ofRegistry object collected
    have few : (empty.declareAll fields).size ≤ 0 + fields.length := empty.size_declareAll_le fields
    exact ⟨fun port => mem_declareAll_empty, by omega⟩
  case unordered =>
    intro fields entries ports object collected reordered
    obtain ⟨-, sound, rfl⟩ := eq_of_ofRegistry object collected
    have others : ∀ field ∈ entries, ¬ Misdeclares field.2 :=
      fun field member => sound field (reordered.mem_iff.mp member)
    rw [addEntries_of_sound others]
    -- ports are kept in order, so those that declare the same ones come to the same list
    refine congrArg Except.ok (eq_of_mem_iff fun port => ?_)
    simp only [mem_declareAll_empty, reordered.mem_iff]
  case unwritten =>
    rintro members others rfl distinct reordered
    rw [ofRegistry, ofRegistry, Value.fields?, Value.fields?,
      Json.sortFields_eq_of_perm distinct reordered]
  case listed =>
    intro fields ports list object collected same short
    obtain ⟨-, -, rfl⟩ := eq_of_ofRegistry object collected
    exact ofPorts_eq_of_mem_iff short fun port => (same port).trans mem_declareAll_empty.symm
  case unstructured =>
    intro unstructured
    rw [ofRegistry, unstructured]
  case crowded =>
    intro fields object many
    rw [ofRegistry_of_fields object, if_pos many]
  case blames =>
    intro fields object small spoilt
    obtain ⟨service, entry, member, first, least, blamed⟩ :=
      ofRegistry_of_first object small spoilt
    exact ⟨service, entry, member, first,
      fun field other spoilt => (least field other spoilt).imp_right utf8Bytes_lt, blamed⟩

end AllowedPorts

end RpcTransport
