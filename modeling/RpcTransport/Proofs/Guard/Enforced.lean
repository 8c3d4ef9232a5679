import RpcTransport.Proofs.Address.HostPort
import RpcTransport.Proofs.Guard.Registry

/-! # What a guard lets through

A guard that is built from a system configuration accepts exactly the bind targets whose
port is registered there. Of a target that it refuses, it names the first thing that is
wrong: the network, the form of the address, or the port.
-/

namespace RpcTransport

open Json (Value)

namespace Guard

variable {guard : Guard} {network address : String}

theorem validate_of_network (guard : Guard) (address : String) (first : network ≠ "tcp4")
    (second : network ≠ "tcp6") :
    guard.validate network address = .error (.unsafeNetwork network) := by
  rw [validate, if_pos ⟨first, second⟩]

section Stream

variable (stream : network = "tcp4" ∨ network = "tcp6")

include stream

theorem stream_network : ¬ (network ≠ "tcp4" ∧ network ≠ "tcp6") :=
  fun ⟨first, second⟩ => stream.elim first second

theorem validate_of_malformed (guard : Guard) {reason : SplitError}
    (malformed : HostPort.split address.toList = .error reason) :
    guard.validate network address = .error (.invalidAddress address reason.message) := by
  rw [validate, if_neg (stream_network stream), malformed]

theorem validate_of_written (guard : Guard) {parts : HostPort}
    (written : HostPort.Written address.toList parts) :
    guard.validate network address =
      if String.ofList parts.port = "80" ∨ String.ofList parts.port ∉ guard.allowed.toList then
        .error (.unsafePort (String.ofList parts.port))
      else .ok () := by
  rw [validate, if_neg (stream_network stream), HostPort.split_eq_ok_iff.mpr written]
  simp only [reservedWebPort, AllowedPorts.contains, List.contains_iff_mem]

end Stream

theorem validate_eq_ok_iff : guard.validate network address = .ok () ↔
    (network = "tcp4" ∨ network = "tcp6") ∧
      ∃ parts, HostPort.Written address.toList parts ∧ String.ofList parts.port ≠ "80" ∧
        String.ofList parts.port ∈ guard.allowed.toList := by
  by_cases stream : network = "tcp4" ∨ network = "tcp6"
  · cases halves : HostPort.split address.toList with
    | error reason =>
        have unwritten : ∀ parts, ¬ HostPort.Written address.toList parts := by
          simp [← HostPort.split_eq_ok_iff, halves]
        simp [validate_of_malformed stream guard halves, unwritten]
    | ok parts =>
        have written_iff : ∀ other, HostPort.Written address.toList other ↔ parts = other := by
          simp [← HostPort.split_eq_ok_iff, halves]
        rw [validate_of_written stream guard ((written_iff parts).mpr rfl)]
        simp [stream, written_iff]
  · obtain ⟨first, second⟩ := not_or.mp stream
    simp [validate_of_network guard address first second, stream]

theorem collected_of_ofSystemConfig {config : SystemConfig} {notices : List Notice}
    (built : ofSystemConfig config = (.ok guard, notices)) :
    (AllowedPorts.ofSystemConfig config).1 = .ok guard.allowed := by
  rw [ofSystemConfig] at built
  split at built
  · next collected =>
      rw [collected]
      cases built
      rfl
  · cases built

structure Enforces (guard : Guard) (root : Value) : Prop where
  accepts (network address : String) : guard.validate network address = .ok () ↔
    (network = "tcp4" ∨ network = "tcp6") ∧
      ∃ parts, HostPort.Written address.toList parts ∧ String.ofList parts.port ≠ "80" ∧
        Registered root (String.ofList parts.port)
  /-- Of an address only the port matters. -/
  hostless (network : String) {address other : String} {parts others : HostPort} :
    HostPort.Written address.toList parts → HostPort.Written other.toList others →
      parts.port = others.port →
        guard.validate network address = guard.validate network other
  /-- Without a registry nothing gets through. -/
  closed (network address : String) : root.get? "microservices" = none →
    guard.validate network address ≠ .ok ()
  network (network address : String) : network ≠ "tcp4" → network ≠ "tcp6" →
    guard.validate network address = .error (.unsafeNetwork network)
  form (network address : String) : network = "tcp4" ∨ network = "tcp6" →
    (∀ parts, ¬ HostPort.Written address.toList parts) →
      ∃ reason, HostPort.split address.toList = .error reason ∧
        guard.validate network address = .error (.invalidAddress address reason.message)
  port (network address : String) {parts : HostPort} : network = "tcp4" ∨ network = "tcp6" →
    HostPort.Written address.toList parts →
      String.ofList parts.port = "80" ∨ ¬ Registered root (String.ofList parts.port) →
        guard.validate network address = .error (.unsafePort (String.ofList parts.port))

/-- The guard of a system configuration enforces what its root registers. -/
theorem enforces_ofSystemConfig {root : Value} {config : SystemConfig} {notices : List Notice}
    (read : SystemConfig.ofValue root = .ok config)
    (built : ofSystemConfig config = (.ok guard, notices)) : guard.Enforces root := by
  have allowed (port : String) : port ∈ guard.allowed.toList ↔ Registered root port :=
    AllowedPorts.mem_ofSystemConfig read (collected_of_ofSystemConfig built) port
  constructor
  case accepts =>
    intro network address
    simp only [validate_eq_ok_iff, allowed]
  case hostless =>
    intro network address other parts others written alike same
    by_cases stream : network = "tcp4" ∨ network = "tcp6"
    · rw [validate_of_written stream guard written, validate_of_written stream guard alike, same]
    · obtain ⟨first, second⟩ := not_or.mp stream
      rw [validate_of_network guard address first second,
        validate_of_network guard other first second]
  case closed =>
    intro network address absent accepted
    obtain ⟨-, parts, -, -, registered⟩ := validate_eq_ok_iff.mp accepted
    obtain ⟨registry, service, entry, present, -⟩ := (allowed _).mp registered
    rw [absent] at present
    cases present
  case network =>
    exact fun network address => validate_of_network guard address
  case form =>
    intro network address stream unwritten
    cases halves : HostPort.split address.toList with
    | error reason => exact ⟨reason, rfl, validate_of_malformed stream guard halves⟩
    | ok parts => exact absurd (HostPort.split_eq_ok_iff.mp halves) (unwritten parts)
  case port =>
    intro network address parts stream written refused
    rw [← allowed] at refused
    rw [validate_of_written stream guard written, if_pos refused]

def twoShapes : Value :=
  .object [("microservices", .object
    [("auth", .object [("rpcwebhostUrl", .string "0.0.0.0:9091")]),
      ("web", .object [("rpcwebhostUrl", .string "https://10.0.0.7:8443/")])])]

theorem enforces_twoShapes : ∃ config guard notices,
    SystemConfig.ofValue twoShapes = .ok config ∧ ofSystemConfig config = (.ok guard, notices) ∧
      guard.Enforces twoShapes ∧ guard.allowed.toList = ["8443", "9091"] :=
  ⟨_, _, _, rfl, rfl, enforces_ofSystemConfig rfl rfl, rfl⟩

end Guard

end RpcTransport
