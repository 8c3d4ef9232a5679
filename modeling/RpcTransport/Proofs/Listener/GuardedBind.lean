import RpcTransport.Listener.Bind
import RpcTransport.Proofs.Address.SocketText
import RpcTransport.Proofs.Guard.PortSets

/-! # What a guarded bind asks for

The guard sees the canonical text of a candidate, and so its port in decimal form. All
candidates for one bind address have the port that is written in it. What the guard does
not see is the port that a listener gets when it asks for port 0.
-/

namespace RpcTransport

/-- The guard lets a listener ask for the port. -/
def Guard.Permits (guard : Guard) (port : UInt16) : Prop :=
  guard.allowed.contains (toString port.toNat) = true ∧ port ≠ 80

instance (guard : Guard) (port : UInt16) : Decidable (guard.Permits port) :=
  inferInstanceAs (Decidable (_ ∧ _))

theorem toString_port_eq_reserved {port : UInt16} :
    toString port.toNat = reservedWebPort ↔ port = 80 := by
  rw [toString_eq_reserved, ← UInt16.toNat_inj]
  rfl

theorem SocketAddress.network_safe (address : SocketAddress) :
    ¬ (address.network ≠ "tcp4" ∧ address.network ≠ "tcp6") := by
  cases address <;> simp [network]

/-- The guard accepts a socket address exactly for its port. -/
theorem Guard.validate_text_iff (guard : Guard) (address : SocketAddress) :
    guard.validate address.network address.text = .ok () ↔ guard.Permits address.port := by
  obtain ⟨host, parts⟩ := address.split_text
  simp only [validate, if_neg address.network_safe, parts, String.ofList_toList,
    toString_port_eq_reserved, Permits]
  by_cases reserved : address.port = 80 <;> simp [reserved]

theorem Guard.permits_iff_allowed {guard : Guard} {port : UInt16} :
    guard.Permits port ↔ toString port.toNat ∈ guard.allowed.toList ∧ port ≠ 80 := by
  rw [Permits, AllowedPorts.contains, List.contains_iff_mem]

theorem Guard.validate_text_of_not_permits {guard : Guard} {address : SocketAddress}
    (unpermitted : ¬ guard.Permits address.port) :
    guard.validate address.network address.text =
      .error (.unsafePort (toString address.port.toNat)) := by
  obtain ⟨host, parts⟩ := address.split_text
  have refused : toString address.port.toNat = reservedWebPort ∨
      ¬ guard.allowed.contains (toString address.port.toNat) = true := by
    rw [toString_port_eq_reserved]
    by_cases reserved : address.port = 80
    · exact .inl reserved
    · exact .inr fun allowed => unpermitted ⟨allowed, reserved⟩
  simp only [validate, if_neg address.network_safe, parts, String.ofList_toList, if_pos refused]

@[simp] theorem SocketAddress.port_withPort (address : SocketAddress) (port : UInt16) :
    (address.withPort port).port = port := by
  cases address <;> rfl

def bindPort? (address : String) : Option UInt16 :=
  match SocketAddress.parse address with
  | some socket => some socket.port
  | none => (splitLast? ':' address.toList).bind fun (_, port) => Decimal.readSignedPort? port

/-- Whatever a host resolves to, the port is as written. -/
theorem Network.bindPort?_of_resolve {network : Network} {address : String}
    {candidates : List SocketAddress} (resolved : network.resolve address = .ok candidates)
    {candidate : SocketAddress} (member : candidate ∈ candidates) :
    bindPort? address = some candidate.port := by
  simp only [resolve] at resolved
  simp only [bindPort?]
  cases parsed : SocketAddress.parse address with
  | some socket =>
      simp only [parsed, Except.ok.injEq] at resolved
      subst resolved
      rw [List.mem_singleton.mp member]
  | none =>
      cases halves : splitLast? ':' address.toList with
      | none => simp [parsed, halves] at resolved
      | some pair =>
          obtain ⟨host, text⟩ := pair
          cases read : Decimal.readSignedPort? text with
          | none => simp [parsed, halves, read] at resolved
          | some port =>
              cases looked : network.hostAddresses host with
              | error cause => simp [parsed, halves, read, looked] at resolved
              | ok found =>
                  simp only [parsed, halves, read, looked, Except.ok.injEq] at resolved
                  subst resolved
                  obtain ⟨other, _, rfl⟩ := List.mem_map.mp member
                  simp [read]

theorem Network.port_eq_of_resolve {network : Network} {address : String} {first : SocketAddress}
    {rest : List SocketAddress} (resolved : network.resolve address = .ok (first :: rest))
    {candidate : SocketAddress} (member : candidate ∈ first :: rest) :
    candidate.port = first.port := by
  have written := bindPort?_of_resolve resolved member
  rw [bindPort?_of_resolve resolved List.mem_cons_self, Option.some.injEq] at written
  exact written.symm

def Resolvable (address : String) : Prop :=
  ∃ (network : Network) (first : SocketAddress) (rest : List SocketAddress),
    network.resolve address = .ok (first :: rest)

theorem Resolvable.of_mem {network : Network} {address : String}
    {candidates : List SocketAddress} (resolved : network.resolve address = .ok candidates)
    {candidate : SocketAddress} (member : candidate ∈ candidates) : Resolvable address := by
  cases candidates with
  | nil => cases member
  | cons first rest => exact ⟨network, first, rest, resolved⟩

/-- The network, with every address free and one port to assign. -/
def Network.granting (network : Network) (port : UInt16) : Network :=
  { network with bind := fun _ _ => .ok port, unreadable? := fun _ _ => none }

theorem Network.resolve_granting (network : Network) (port : UInt16) (address : String) :
    (network.granting port).resolve address = network.resolve address := rfl

theorem Network.bind_granting (network : Network) (port : UInt16) (sockets : Sockets)
    (address : SocketAddress) : (network.granting port).bind sockets address = .ok port := rfl

namespace Sockets

theorem readAddress_granting (network : Network) (port : UInt16) (sockets : Sockets)
    (listener : Listener) :
    sockets.readAddress (network.granting port) listener = .ok listener.localAddress := rfl

theorem localAddress_of_port {address : SocketAddress} (asked : address.port ≠ 0)
    (assigned : UInt16) : localAddress address assigned = address :=
  if_neg asked

theorem port_localAddress_zero {address : SocketAddress} (unasked : address.port = 0)
    (assigned : UInt16) : (localAddress address assigned).port = assigned := by
  simp [localAddress, unasked]

/-- A listener behind the guard has the address of an accepted candidate, up to an assigned
    port. -/
theorem bindAccepted_ok {network : Network} {guard : Guard} {candidates : List SocketAddress}
    {sockets after : Sockets} {failure : ListenerError} {listener : Listener}
    (bound : sockets.bindAccepted network guard failure candidates = (.ok listener, after)) :
    ∃ candidate ∈ candidates, guard.Permits candidate.port ∧
      ∃ assigned, listener.localAddress = localAddress candidate assigned := by
  induction candidates generalizing sockets failure with
  | nil => simp [bindAccepted] at bound
  | cons candidate rest ih =>
      -- a candidate that is refused or taken leaves it to those behind
      have later : ∀ {sockets : Sockets} {failure : ListenerError},
          sockets.bindAccepted network guard failure rest = (.ok listener, after) →
            ∃ other ∈ candidate :: rest, guard.Permits other.port ∧
              ∃ assigned, listener.localAddress = localAddress other assigned := by
        intro sockets failure bound
        obtain ⟨other, member, found⟩ := ih bound
        exact ⟨other, List.mem_cons_of_mem candidate member, found⟩
      simp only [bindAccepted] at bound
      cases checked : guard.validate candidate.network candidate.text with
      | error e =>
          simp only [checked] at bound
          exact later bound
      | ok =>
          have permitted := (guard.validate_text_iff candidate).mp checked
          simp only [checked, openAt] at bound
          cases granted : network.bind sockets candidate with
          | error cause =>
              simp only [granted] at bound
              exact later bound
          | ok assigned =>
              simp only [granted, Prod.mk.injEq, Except.ok.injEq] at bound
              obtain ⟨rfl, -⟩ := bound
              exact ⟨candidate, List.mem_cons_self, permitted, assigned, rfl⟩

theorem guardedBind_ok {network : Network} {guard : Guard} {address : String}
    {sockets after : Sockets} {listener : Listener}
    (bound : sockets.guardedBind network guard address = (.ok listener, after)) :
    ∃ candidates, network.resolve address = .ok candidates ∧
      ∃ candidate ∈ candidates, guard.Permits candidate.port ∧
        ∃ assigned, listener.localAddress = localAddress candidate assigned := by
  simp only [guardedBind] at bound
  cases resolved : network.resolve address with
  | error cause => simp [resolved] at bound
  | ok candidates =>
      simp only [resolved] at bound
      exact ⟨candidates, rfl, bindAccepted_ok bound⟩

theorem guardedBind_granting {network : Network} {guard : Guard} {address : String}
    {first : SocketAddress} {rest : List SocketAddress}
    (resolved : network.resolve address = .ok (first :: rest))
    (permitted : guard.Permits first.port) (port : UInt16) (sockets : Sockets) :
    ∃ listener after,
      sockets.guardedBind (network.granting port) guard address = (.ok listener, after) ∧
        listener.localAddress = localAddress first port := by
  have accepted := (guard.validate_text_iff first).mpr permitted
  simp only [guardedBind, Network.resolve_granting, resolved, bindAccepted, accepted, openAt,
    Network.bind_granting]
  exact ⟨_, _, rfl, rfl⟩

theorem bind_granting {network : Network} {address : String} {first : SocketAddress}
    {rest : List SocketAddress} (resolved : network.resolve address = .ok (first :: rest))
    (port : UInt16) (sockets : Sockets) :
    ∃ listener after, sockets.bind (network.granting port) address = (.ok listener, after) := by
  simp only [bind, Network.resolve_granting, resolved, bindFirst, openAt,
    Network.bind_granting, readAddress_granting]
  exact ⟨_, _, rfl⟩

theorem resolvable_of_bind {network : Network} {address : String} {sockets after : Sockets}
    {listener : Listener} (bound : sockets.bind network address = (.ok listener, after)) :
    Resolvable address := by
  simp only [bind] at bound
  cases resolved : network.resolve address with
  | error cause => simp [resolved] at bound
  | ok candidates =>
      cases candidates with
      | nil => simp [resolved, bindFirst] at bound
      | cons first rest => exact ⟨network, first, rest, resolved⟩

end Sockets

end RpcTransport
