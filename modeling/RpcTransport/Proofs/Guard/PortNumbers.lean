import RpcTransport.Proofs.Guard.HostingShapes

/-! # Registered texts that are no port numbers

The port in a URL is read as a number. What stands behind the colon of a `host:port` address
is taken as it is, so a registry can allow texts that are no port numbers, and other
spellings of the reserved one.
-/

namespace RpcTransport

open Json (Value)

def UsablePort (text : List Char) : Prop :=
  ∃ port, Decimal.readSignedPort? text = some port ∧ port ≠ 80

/-- A guard from the registry accepts only addresses with the number of a port, and never the
    reserved one. -/
def AdmitsUsablePorts (registry : Value) : Prop :=
  ∀ ports network address, (AllowedPorts.ofRegistry registry).1 = .ok ports →
    (Guard.mk ports).validate network address = .ok () →
      ∃ parts, HostPort.Written address.toList parts ∧ UsablePort parts.port

/-- An entry gives `host:port` with a text for a port that is no such number, and is not the
    reserved one in its decimal form either. -/
structure Misspells (entry : Value) (host port : List Char) : Prop where
  hosted : ∃ address, entry.get? "rpcwebhostUrl" = some (.string address) ∧
    ¬ "://".toList <:+: address.toList ∧ address.toList = host ++ ':' :: port
  first : ':' ∉ host
  last : ':' ∉ port
  nonempty : port ≠ []
  unreserved : String.ofList port ≠ "80"
  unusable : ¬ UsablePort port

theorem Misspells.declares {entry : Value} {host port : List Char}
    (misspelt : Misspells entry host port) : Declares entry (String.ofList port) := by
  obtain ⟨address, field, schemeless, shape⟩ := misspelt.hosted
  exact ⟨address, field,
    .plain schemeless shape misspelt.first misspelt.last misspelt.nonempty⟩

theorem usablePort_of_url {text : List Char} {number : Nat}
    (written : Url.port? text = some number) (unreserved : toString number ≠ "80") :
    UsablePort (toString number).toList := by
  have small := Url.port?_lt written
  have value : (UInt16.ofNat number).toNat = number := UInt16.toNat_ofNat_of_lt' small
  refine ⟨UInt16.ofNat number, ?_, ?_⟩
  · apply Decimal.Spells.readSignedPort?
    rw [value]
    exact Decimal.spells_toString number
  · intro reserved
    rw [reserved] at value
    exact unreserved (congrArg toString value.symm)

/-- A declared port is the number of one unless its entry misspells it. -/
theorem Declares.usable_or_misspells {entry : Value} {port : String}
    (declared : Declares entry port) (unreserved : port ≠ "80") :
    UsablePort port.toList ∨ ∃ host, Misspells entry host port.toList := by
  obtain ⟨address, field, hosted⟩ := declared
  cases hosted with
  | url scheme written => exact .inl (usablePort_of_url written unreserved)
  | @plain host port schemeless shape first last nonempty =>
      rw [String.toList_ofList]
      by_cases usable : UsablePort port
      · exact .inl usable
      · exact .inr ⟨host, ⟨address, field, schemeless, shape⟩, first, last, nonempty, unreserved,
          usable⟩

/-- Only port numbers are admitted, just if no entry of an accepted registry misspells one. -/
theorem admitsUsablePorts_iff (registry : Value) : AdmitsUsablePorts registry ↔
    ¬ ∃ ports service entry host port, (AllowedPorts.ofRegistry registry).1 = .ok ports ∧
      registry.get? service = some entry ∧ Misspells entry host port := by
  constructor
  · rintro admits ⟨ports, service, entry, host, port, collected, present, misspelt⟩
    have hostless : HostPort.Written ([] ++ ':' :: port) ⟨[], port⟩ :=
      .plain (by simp) (by simp) (by simp) misspelt.last
    have written : HostPort.Written (String.ofList (':' :: port)).toList ⟨[], port⟩ := by
      rwa [String.toList_ofList]
    have accepted : (Guard.mk ports).validate "tcp4" (String.ofList (':' :: port)) = .ok () := by
      refine Guard.validate_eq_ok_iff.mpr ⟨.inl rfl, _, written, misspelt.unreserved, ?_⟩
      rw [AllowedPorts.mem_ofRegistry collected]
      exact ⟨service, entry, present, misspelt.declares⟩
    obtain ⟨parts, same, usable⟩ := admits ports _ _ collected accepted
    have halves := (HostPort.split_eq_ok_iff.mpr same).symm.trans
      (HostPort.split_eq_ok_iff.mpr written)
    cases halves
    exact misspelt.unusable usable
  · intro spelt ports network address collected accepted
    obtain ⟨-, parts, written, unreserved, allowed⟩ := Guard.validate_eq_ok_iff.mp accepted
    rw [AllowedPorts.mem_ofRegistry collected] at allowed
    obtain ⟨service, entry, present, declared⟩ := allowed
    refine ⟨parts, written, ?_⟩
    rcases declared.usable_or_misspells unreserved with usable | ⟨host, misspelt⟩
    · rwa [String.toList_ofList] at usable
    · exact absurd ⟨ports, service, entry, host, _, collected, present, misspelt⟩ spelt

/-- Behind a zero the reserved port gets through, and so does a text without digits. -/
theorem not_admitsUsablePorts : ¬ AdmitsUsablePorts (soleService "web" "0.0.0.0:080") ∧
    ¬ AdmitsUsablePorts (soleService "web" "0.0.0.0:http") := by
  constructor
  · intro admits
    have accepted : (Guard.mk ⟨["080"], by simp⟩).validate "tcp4" "127.0.0.1:080" = .ok () := rfl
    obtain ⟨parts, written, port, read, unreserved⟩ := admits _ _ _ rfl accepted
    cases HostPort.split_eq_ok_iff.mpr written
    have reserved : Decimal.readSignedPort? "080".toList = some 80 := by decide
    exact unreserved (Option.some.inj (read.symm.trans reserved))
  · intro admits
    have accepted : (Guard.mk ⟨["http"], by simp⟩).validate "tcp4" "127.0.0.1:http" = .ok () := rfl
    obtain ⟨parts, written, port, read, -⟩ := admits _ _ _ rfl accepted
    cases HostPort.split_eq_ok_iff.mpr written
    have unread : Decimal.readSignedPort? "http".toList = none := by decide
    cases read.symm.trans unread

end RpcTransport
