import RpcTransport.Guard.Registry
import RpcTransport.Proofs.Json.Fields
import RpcTransport.Proofs.SystemConfig.Categories
import RpcTransport.Proofs.Text.Split

/-! # The ports that a registry declares

A service declares a port by the hosting address of its bridge, in one of two shapes. The
ports collected from a registry are the declared ones: none is lost, and none slips in.
-/

namespace RpcTransport

open Json (Value)

/-- The port of a hosting address: text with `://` in it is a URL whose port is written out,
    other text has one colon and a port that is not empty. -/
inductive HostedAt : String → String → Prop where
  | url {address : String} {number : Nat} (scheme : "://".toList <:+: address.toList)
      (written : Url.port? address.toList = some number) : HostedAt address (toString number)
  | plain {address : String} {host port : List Char}
      (schemeless : ¬ "://".toList <:+: address.toList)
      (shape : address.toList = host ++ ':' :: port) (first : ':' ∉ host) (last : ':' ∉ port)
      (nonempty : port ≠ []) : HostedAt address (String.ofList port)

theorem HostedAt.of_bridgePort? {address port : String}
    (found : bridgePort? address = some port) : HostedAt address port := by
  have scheme_iff : holdsWord "://".toList address.toList = true ↔ _ :=
    holdsWord_eq_true_iff (by decide)
  simp only [bridgePort?] at found
  split at found
  · next scheme =>
      obtain ⟨number, written, rfl⟩ := Option.map_eq_some_iff.mp found
      exact .url (scheme_iff.mp scheme) written
  · next schemeless =>
      split at found
      · next host digits pieces =>
          obtain ⟨shape, first, last⟩ := splitAll_eq_pair_iff.mp pieces
          split at found
          · cases found
          · next nonempty =>
              cases found
              exact .plain (fun scheme => schemeless (scheme_iff.mpr scheme)) shape first last
                nonempty
      · cases found

theorem bridgePort?_eq_some_iff {address port : String} :
    bridgePort? address = some port ↔ HostedAt address port := by
  have scheme_iff : holdsWord "://".toList address.toList = true ↔ _ :=
    holdsWord_eq_true_iff (by decide)
  constructor
  · exact .of_bridgePort?
  · intro hosted
    cases hosted with
    | url scheme written =>
        simp only [bridgePort?, if_pos (scheme_iff.mpr scheme), written, Option.map_some]
    | plain schemeless shape first last nonempty =>
        have pieces := splitAll_eq_pair_iff.mpr ⟨shape, first, last⟩
        have absent := fun holds => schemeless (scheme_iff.mp holds)
        simp only [bridgePort?, if_neg absent, pieces, if_neg nonempty]

def Declares (entry : Value) (port : String) : Prop :=
  ∃ address, entry.get? "rpcwebhostUrl" = some (.string address) ∧ HostedAt address port

/-- A root has a registry with an entry that declares a port. -/
def Registered (root : Value) (port : String) : Prop :=
  ∃ registry service entry, root.get? "microservices" = some registry ∧
    registry.get? service = some entry ∧ Declares entry port

theorem declares_iff_of_string {entry : Value} {address : String}
    (field : entry.get? "rpcwebhostUrl" = some (.string address)) (port : String) :
    Declares entry port ↔ bridgePort? address = some port := by
  rw [Declares, field, bridgePort?_eq_some_iff]
  constructor
  · rintro ⟨other, same, hosted⟩
    cases same
    exact hosted
  · exact fun hosted => ⟨address, rfl, hosted⟩

def Misdeclares (entry : Value) : Prop :=
  ∃ field, entry.get? "rpcwebhostUrl" = some field ∧ ∀ address, field ≠ .string address

def declaredPort? (entry : Value) : Option String :=
  match entry.get? bridgeUrlField with
  | some (.string address) => bridgePort? address
  | _ => none

theorem declaredPort?_eq_some_iff {entry : Value} {port : String} :
    declaredPort? entry = some port ↔ Declares entry port := by
  rw [declaredPort?]
  split
  · next address field => exact (declares_iff_of_string field port).symm
  · next other =>
      have silent : ¬ Declares entry port := fun ⟨address, field, _⟩ => other address field
      simp [silent]

theorem declares_nothing {entry : Value} (absent : entry.get? "rpcwebhostUrl" = none) :
    ¬ Misdeclares entry ∧ ∀ port, ¬ Declares entry port := by
  constructor
  · rintro ⟨field, present, -⟩
    simp [absent] at present
  · rintro port ⟨address, present, -⟩
    simp [absent] at present

namespace AllowedPorts

def declare (ports : AllowedPorts) (entry : Value) : AllowedPorts :=
  match declaredPort? entry with
  | some port => ports.insert port
  | none => ports

theorem mem_declare {ports : AllowedPorts} {entry : Value} {port : String} :
    port ∈ (ports.declare entry).toList ↔ port ∈ ports.toList ∨ Declares entry port := by
  rw [← declaredPort?_eq_some_iff, declare]
  cases declaredPort? entry with
  | none => simp
  | some declared => simp [or_comm, eq_comm]

def declareAll (ports : AllowedPorts) (entries : List (String × Value)) : AllowedPorts :=
  entries.foldl (fun ports field => ports.declare field.2) ports

theorem mem_declareAll {ports : AllowedPorts} {entries : List (String × Value)} {port : String} :
    port ∈ (ports.declareAll entries).toList ↔
      port ∈ ports.toList ∨ ∃ field ∈ entries, Declares field.2 port := by
  induction entries generalizing ports with
  | nil => simp [declareAll]
  | cons field rest ih =>
      rw [declareAll, List.foldl_cons, ← declareAll, ih, mem_declare, or_assoc]
      simp

variable {ports : AllowedPorts} {service : String} {entry : Value}
  {entries : List (String × Value)}

def misdeclared (service : String) : GuardError :=
  .invalidRegistry (service ++ ".rpcwebhostUrl must be a string")

theorem addEntries_of_misdeclares (spoilt : Misdeclares entry)
    (rest : List (String × Value)) :
    ports.addEntries ((service, entry) :: rest) = (.error (misdeclared service), []) := by
  obtain ⟨field, present, untyped⟩ := spoilt
  have textless : field.string? = none := by
    cases field with
    | string address => exact absurd rfl (untyped address)
    | _ => rfl
  have present : entry.get? bridgeUrlField = some field := present
  have wording : "." ++ (bridgeUrlField ++ " must be a string") =
      ".rpcwebhostUrl must be a string" := by decide
  simp only [addEntries, present, textless, misdeclared, ← wording, String.append_assoc]
  rfl

theorem addEntries_cons (sound : ¬ Misdeclares entry) (rest : List (String × Value)) :
    (ports.addEntries ((service, entry) :: rest)).1 =
      ((ports.declare entry).addEntries rest).1 := by
  simp only [addEntries, declare, declaredPort?]
  cases present : entry.get? bridgeUrlField with
  | none => rfl
  | some field =>
      cases field with
      | string address =>
          simp only [Value.string?]
          cases bridgePort? address <;> rfl
      | _ => exact absurd ⟨_, present, by simp⟩ sound

theorem addEntries_of_sound (sound : ∀ field ∈ entries, ¬ Misdeclares field.2) :
    (ports.addEntries entries).1 = .ok (ports.declareAll entries) := by
  induction entries generalizing ports with
  | nil => rfl
  | cons field rest ih =>
      obtain ⟨first, others⟩ := List.forall_mem_cons.mp sound
      exact (addEntries_cons first rest).trans (ih others)

theorem addEntries_of_first (sound : ∀ field ∈ entries, ¬ Misdeclares field.2)
    (spoilt : Misdeclares entry) (rest : List (String × Value)) :
    (ports.addEntries (entries ++ (service, entry) :: rest)).1 =
      .error (misdeclared service) := by
  induction entries generalizing ports with
  | nil => exact congrArg Prod.fst (addEntries_of_misdeclares spoilt rest)
  | cons field before ih =>
      obtain ⟨first, others⟩ := List.forall_mem_cons.mp sound
      exact (addEntries_cons first _).trans (ih others)

theorem sound_or_first (entries : List (String × Value)) :
    (∀ field ∈ entries, ¬ Misdeclares field.2) ∨
      ∃ before service entry behind, entries = before ++ (service, entry) :: behind ∧
        (∀ field ∈ before, ¬ Misdeclares field.2) ∧ Misdeclares entry := by
  induction entries with
  | nil => exact .inl (by simp)
  | cons field rest ih =>
      by_cases spoilt : Misdeclares field.2
      · exact .inr ⟨[], field.1, field.2, rest, rfl, by simp, spoilt⟩
      · rcases ih with sound | ⟨before, service, entry, behind, rfl, sound, first⟩
        · exact .inl (List.forall_mem_cons.mpr ⟨spoilt, sound⟩)
        · exact .inr ⟨field :: before, service, entry, behind, rfl,
            List.forall_mem_cons.mpr ⟨spoilt, sound⟩, first⟩

/-- Entries are collected just if all are sound. -/
theorem addEntries_eq_ok_iff {result : AllowedPorts} :
    (ports.addEntries entries).1 = .ok result ↔
      (∀ field ∈ entries, ¬ Misdeclares field.2) ∧ result = ports.declareAll entries := by
  constructor
  · intro added
    rcases sound_or_first entries with
      sound | ⟨before, service, entry, behind, rfl, sound, spoilt⟩
    · rw [addEntries_of_sound sound] at added
      cases added
      exact ⟨sound, rfl⟩
    · rw [addEntries_of_first sound spoilt] at added
      cases added
  · rintro ⟨sound, rfl⟩
    exact addEntries_of_sound sound

theorem mem_addEntries {entries : List (String × Value)} {ports result : AllowedPorts}
    (added : (ports.addEntries entries).1 = .ok result) (port : String) :
    port ∈ result.toList ↔ port ∈ ports.toList ∨ ∃ field ∈ entries, Declares field.2 port := by
  obtain ⟨-, rfl⟩ := addEntries_eq_ok_iff.mp added
  exact mem_declareAll

theorem mem_ofRegistry {registry : Value} {ports : AllowedPorts}
    (collected : (ofRegistry registry).1 = .ok ports) (port : String) :
    port ∈ ports.toList ↔
      ∃ service entry, registry.get? service = some entry ∧ Declares entry port := by
  rw [ofRegistry] at collected
  simp only [Value.get?_eq_some_iff]
  cases object : registry.fields? with
  | none => simp [object] at collected
  | some services =>
      simp only [object] at collected
      split at collected
      · cases collected
      · simp [mem_addEntries collected, empty]

/-- The allowed ports are the registered ones; without a registry there are none. -/
theorem mem_ofSystemConfig {root : Value} {config : SystemConfig}
    (read : SystemConfig.ofValue root = .ok config) {ports : AllowedPorts}
    (collected : (ofSystemConfig config).1 = .ok ports) (port : String) :
    port ∈ ports.toList ↔ Registered root port := by
  have category : config.get? .microservices = root.get? "microservices" :=
    SystemConfig.get?_ofName read "microservices"
  rw [ofSystemConfig, category] at collected
  rw [Registered]
  cases present : root.get? "microservices" with
  | none =>
      rw [present] at collected
      cases collected
      simp [empty]
  | some registry =>
      rw [present] at collected
      simp [mem_ofRegistry collected]

end AllowedPorts

end RpcTransport
