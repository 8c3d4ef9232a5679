import RpcTransport.Proofs.Guard.Enforced
import RpcTransport.Proofs.Guard.PortSets
import RpcTransport.Proofs.Url.WrittenPort

/-! # The two shapes of a hosting address

An entry may give its port in `host:port` or in a URL with the same host and port. Either
declares the port, except that a URL does not keep the port which its scheme implies.
-/

namespace RpcTransport

open Json (Value)
open Url (WebScheme PlainHost)

def plainAddress (host : List Char) (number : Nat) : String :=
  String.ofList (host ++ ':' :: Nat.toDigits 10 number)

def urlAddress (scheme : WebScheme) (host : List Char) (number : Nat) : String :=
  scheme.text ++ "://" ++ plainAddress host number

def soleService (service address : String) : Value :=
  .object [(service, .object [("rpcwebhostUrl", .string address)])]

/-- What it means that a hosting address declares a port. -/
structure Announces (address : String) (number : Nat) : Prop where
  /-- An entry with the address declares the port and no other. -/
  declares (entry : Value) : entry.get? "rpcwebhostUrl" = some (.string address) →
    ∀ port, Declares entry port ↔ port = toString number
  /-- A registry with no other address allows this port alone. -/
  alone (service : String) : ∃ ports,
    (AllowedPorts.ofRegistry (soleService service address)).1 = .ok ports ∧
      ports.toList = [toString number]
  /-- A guard from any registry with the address accepts every host with the port. -/
  accepted {registry entry : Value} {service : String} {ports : AllowedPorts}
    {network target : String} {host : List Char} :
    (AllowedPorts.ofRegistry registry).1 = .ok ports → registry.get? service = some entry →
      entry.get? "rpcwebhostUrl" = some (.string address) →
        network = "tcp4" ∨ network = "tcp6" →
          HostPort.Written target.toList ⟨host, (toString number).toList⟩ →
            (Guard.mk ports).validate network target = .ok ()

structure DeclareAlike (scheme : WebScheme) (host : List Char) (number : Nat) : Prop where
  plain : Announces (plainAddress host number) number
  url : Announces (urlAddress scheme host number) number

/-- An address declares a port if it gives the port, and says nothing else. -/
theorem announces_iff {address : String} {number : Nat} (other : number ≠ 80) :
    Announces address number ↔ bridgePort? address = some (toString number) := by
  constructor
  · intro announced
    have field : (Value.object [("rpcwebhostUrl", .string address)]).get? "rpcwebhostUrl" =
        some (.string address) := rfl
    exact (declares_iff_of_string field _).mp ((announced.declares _ field _).mpr rfl)
  · intro found
    have declares (entry : Value) (field : entry.get? "rpcwebhostUrl" = some (.string address))
        (port : String) : Declares entry port ↔ port = toString number := by
      rw [declares_iff_of_string field, found, Option.some.injEq, eq_comm]
    refine ⟨declares, fun service => ?_, ?_⟩
    · refine ⟨AllowedPorts.empty.insert (toString number), ?_, rfl⟩
      simp [AllowedPorts.ofRegistry, soleService, AllowedPorts.addEntries, maxRegisteredServices,
        Value.get?, Value.fields?, Value.string?, Json.sortFields, Json.insertField,
        bridgeUrlField, found]
    · intro registry entry service ports network target host collected present field stream written
      have unreserved : toString number ≠ "80" :=
        fun same => other (toString_eq_reserved.mp same)
      refine Guard.validate_eq_ok_iff.mpr ⟨stream, _, written, ?_, ?_⟩
      · rwa [String.ofList_toList]
      · rw [String.ofList_toList, AllowedPorts.mem_ofRegistry collected]
        exact ⟨service, entry, present, (declares entry field _).mpr rfl⟩

section Shapes

variable {host : List Char} (plain : PlainHost host) (number : Nat)

include plain

theorem bridgePort?_plainAddress :
    bridgePort? (plainAddress host number) = some (toString number) := by
  have form : toString number = String.ofList (Nat.toDigits 10 number) :=
    Nat.toString_eq_ofList_toDigits
  have spelled := Decimal.Spells.toDigits number
  have colon : ':' ∉ host := fun member => absurd (plain.characters ':' member) (by decide)
  have slash : '/' ∉ host ++ ':' :: Nat.toDigits 10 number :=
    fun member => (Url.characters_of_plain plain spelled '/' member).2 (by decide)
  have chars : (plainAddress host number).toList = host ++ ':' :: Nat.toDigits 10 number :=
    String.toList_ofList
  rw [form, bridgePort?_eq_some_iff]
  refine .plain ?_ chars colon (spelled.not_mem (by decide)) spelled.ne_nil
  rw [chars]
  have slashes : '/' ∈ "://".toList := by decide
  exact fun scheme => slash (scheme.subset slashes)

theorem bridgePort?_urlAddress (scheme : WebScheme) {number : Nat} (small : number < 65536) :
    bridgePort? (urlAddress scheme host number) =
      if number = scheme.impliedPort then none else some (toString number) := by
  have chars : (urlAddress scheme host number).toList =
      scheme.text.toList ++ "://".toList ++ host ++ ':' :: Nat.toDigits 10 number := by
    simp [urlAddress, plainAddress]
  have schemed : holdsWord "://".toList
      (scheme.text.toList ++ "://".toList ++ host ++ ':' :: Nat.toDigits 10 number) = true := by
    rw [holdsWord_eq_true_iff (by decide), List.append_assoc _ host]
    exact ⟨_, _, rfl⟩
  simp only [bridgePort?, chars, if_pos schemed,
    Url.port?_of_plain scheme plain (.toDigits number) small]
  split <;> rfl

end Shapes

/-- Only the port that `https` implies gets lost, and only behind that scheme. -/
theorem declareAlike_iff {scheme : WebScheme} {host : List Char} {number : Nat}
    (plain : PlainHost host) (small : number ≤ 65535) (other : number ≠ 80) :
    DeclareAlike scheme host number ↔ ¬ (scheme = .https ∧ number = 443) := by
  have kept : Announces (urlAddress scheme host number) number ↔
      number ≠ scheme.impliedPort := by
    rw [announces_iff other, bridgePort?_urlAddress plain scheme (Nat.lt_succ_of_le small)]
    simp
  have implied : number = scheme.impliedPort ↔ scheme = .https ∧ number = 443 := by
    cases scheme <;> simp [WebScheme.impliedPort, other]
  rw [← implied]
  constructor
  · exact fun alike => kept.mp alike.url
  · exact fun unlike =>
      ⟨(announces_iff other).mpr (bridgePort?_plainAddress plain number), kept.mpr unlike⟩

theorem plainHost_bridge : PlainHost "bridge.example".toList := by
  have last : Url.PlainLabel "example".toList :=
    ⟨List.all_eq_true.mp (by decide), by decide⟩
  have first : Url.PlainLabel "bridge".toList := ⟨List.all_eq_true.mp (by decide), by decide⟩
  exact .name (.cons (by decide) first (.last last (Url.not_numberLabel_cons (c := 'e') rfl _)))

theorem declareAlike_bridge : DeclareAlike .https "bridge.example".toList 8443 :=
  (declareAlike_iff plainHost_bridge (by decide) (by decide)).mpr (by decide)

/-- The port that `https` implies is not declared by a URL. -/
theorem not_declareAlike_bridge : PlainHost "bridge.example".toList ∧
    ¬ DeclareAlike .https "bridge.example".toList 443 := by
  refine ⟨plainHost_bridge, fun alike => ?_⟩
  have found := (announces_iff (by decide)).mp alike.url
  rw [bridgePort?_urlAddress plainHost_bridge .https (by decide)] at found
  cases found

end RpcTransport
