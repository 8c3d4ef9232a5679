import RpcTransport.Listener.LocalNetwork
import RpcTransport.Proofs.Host.Operations
import RpcTransport.Proofs.Host.Reached
import RpcTransport.Proofs.Listener.GuardedBind

/-! # The port that the bridge listens on

The guard decides about the port that the bridge asks for. That is the port it listens on,
unless it asks for port 0 and has one assigned; so the bridge stays within the allowed ports
exactly as long as `0` is not one of them, or is not what the configuration asks for.
-/

namespace RpcTransport

/-- The bridge was allowed to ask for an address and got this one. -/
structure BridgeGranted (config : HostConfig) (guard : Guard) (address : SocketAddress) :
    Prop where
  enabled : config.bridgeEnabled = true
  granted : ∃ (network : Network) (candidates : List SocketAddress),
    network.resolve config.bridgeAddress = .ok candidates ∧
      ∃ requested ∈ candidates, guard.Permits requested.port ∧
        ∃ assigned, address = Sockets.localAddress requested assigned

/-- The bridge may get any port: it asks for port 0, and `0` is an allowed port. -/
structure AssignsAnyPort (config : HostConfig) (guard : Guard) : Prop where
  enabled : config.bridgeEnabled = true
  listed : guard.allowed.contains "0" = true
  unasked : bindPort? config.bridgeAddress = some 0
  bridge : Resolvable config.bridgeAddress
  primary : Resolvable config.primaryAddress

/-- The port that was asked for has been checked; another one only comes with port 0. -/
theorem BridgeGranted.permits_or_zero {config : HostConfig} {guard : Guard}
    {address : SocketAddress} (bridge : BridgeGranted config guard address) :
    guard.Permits address.port ∨
      guard.allowed.contains "0" = true ∧ bindPort? config.bridgeAddress = some 0 := by
  obtain ⟨network, candidates, resolved, requested, member, permitted, assigned, rfl⟩ :=
    bridge.granted
  have written := Network.bindPort?_of_resolve resolved member
  by_cases unasked : requested.port = 0
  · rw [unasked] at permitted written
    exact .inr ⟨permitted.1, written⟩
  · rw [Sockets.localAddress_of_port unasked]
    exact .inl permitted

theorem BridgeGranted.resolvable {config : HostConfig} {guard : Guard}
    {address : SocketAddress} (bridge : BridgeGranted config guard address) :
    Resolvable config.bridgeAddress := by
  obtain ⟨network, candidates, resolved, requested, member, -⟩ := bridge.granted
  exact .of_mem resolved member

namespace Host

structure BridgeStep (before after : Host) : Prop where
  config : after.config = before.config
  guard : after.guard = before.guard
  bridge : ∀ address, after.bridgeAddress = some address →
    before.bridgeAddress = some address ∨ BridgeGranted before.config before.guard address

section Paths

variable {host : Host} {environment : HostEnvironment} {world : HostWorld}
  {outcome : HostOutcome}

theorem BridgePath.bridgeStep (path : BridgePath host environment world outcome)
    (enabled : host.config.bridgeEnabled = true) : BridgeStep host outcome.2.1 := by
  cases path with
  | unbound source sockets refused => exact ⟨rfl, rfl, fun address same => .inl same⟩
  | unread listener sockets cause opened lost =>
      exact ⟨rfl, rfl, fun address same => .inl same⟩
  | bridged listener sockets opened read =>
      obtain ⟨candidates, resolved, accepted⟩ := Sockets.guardedBind_ok opened
      refine ⟨rfl, rfl, ?_⟩
      intro address same
      cases same
      exact .inr ⟨enabled, environment.network, candidates, resolved, accepted⟩

theorem StartPath.bridgeStep (path : StartPath host environment world outcome) :
    BridgeStep host outcome.2.1 := by
  cases path with
  | refused other => exact ⟨rfl, rfl, fun address same => .inl same⟩
  | plain listener constructed held disabled =>
      exact ⟨rfl, rfl, fun address same => .inl same⟩
  | bridge listener constructed held enabled path =>
      have step := path.bridgeStep enabled
      exact ⟨step.config, step.guard, step.bridge⟩

theorem StopPath.bridgeStep (path : StopPath host environment world outcome) :
    BridgeStep host outcome.2.1 := by
  cases path with
  | refused other => exact ⟨rfl, rfl, fun address same => .inl same⟩
  | stopped serving => exact ⟨rfl, rfl, fun address absent => nomatch absent⟩

end Paths

theorem bridgeAddress_startBridge (host : Host) {network : Network} {first : SocketAddress}
    {rest : List SocketAddress}
    (resolved : network.resolve host.config.bridgeAddress = .ok (first :: rest))
    (permitted : host.guard.Permits first.port) (port : UInt16)
    (ending : Server → Bool → Ending) (world : HostWorld) :
    (host.startBridge ⟨network.granting port, ending⟩ world).2.1.bridgeAddress =
      some (Sockets.localAddress first port) := by
  obtain ⟨listener, after, opened, had⟩ :=
    Sockets.guardedBind_granting resolved permitted port world.sockets
  simp only [startBridge, opened, Sockets.readAddress_granting, had]

theorem bridgeAddress_start (host : Host) {listener : Listener} {network : Network}
    {first : SocketAddress} {rest : List SocketAddress}
    (constructed : host.state = .constructed) (held : host.primaryListener = some listener)
    (enabled : host.config.bridgeEnabled = true)
    (resolved : network.resolve host.config.bridgeAddress = .ok (first :: rest))
    (permitted : host.guard.Permits first.port) (port : UInt16)
    (ending : Server → Bool → Ending) (world : HostWorld) :
    (host.start ⟨network.granting port, ending⟩ world).2.1.bridgeAddress =
      some (Sockets.localAddress first port) := by
  have bridge := bridgeAddress_startBridge
    { host with state := .serving, primaryListener := none, primaryTask := some listener }
    resolved permitted port ending
  simp only [start, constructed, held, enabled, if_true, bridge]

end Host

namespace HostRun

def bridgeAddress? (run : HostRun) : Option SocketAddress :=
  run.host.bind (·.bridgeAddress)

structure Bridged (config : HostConfig) (guard : Guard) (run : HostRun) : Prop where
  configured : ∀ host, run.host = some host → host.config = config
  guarded : ∀ host, run.host = some host → host.guard = guard
  granted : ∀ address, run.bridgeAddress? = some address → BridgeGranted config guard address

theorem Bridged.step {config : HostConfig} {guard : Guard} {host after : Host}
    {world later : HostWorld} (bridged : Bridged config guard ⟨some host, world⟩)
    (step : host.BridgeStep after) : Bridged config guard ⟨some after, later⟩ := by
  refine ⟨?_, ?_, ?_⟩
  · intro other same
    cases same
    exact step.config.trans (bridged.configured host rfl)
  · intro other same
    cases same
    exact step.guard.trans (bridged.guarded host rfl)
  · intro address same
    rcases step.bridge address same with earlier | latest
    · exact bridged.granted address earlier
    · rwa [bridged.configured host rfl, bridged.guarded host rfl] at latest

theorem Bridged.act {config : HostConfig} {guard : Guard} {run : HostRun}
    (bridged : Bridged config guard run) (environment : HostEnvironment)
    (action : HostAction) : Bridged config guard (run.act environment action).2 := by
  obtain ⟨host?, world⟩ := run
  cases host? with
  | none => exact bridged
  | some host =>
      cases action with
      | operation operation =>
          cases operation with
          | start => exact bridged.step (host.startPath environment world).bridgeStep
          | stop => exact bridged.step (host.stopPath environment world).bridgeStep
      | discard =>
          exact ⟨fun _ absent => (nomatch absent), fun _ absent => (nomatch absent),
            fun _ absent => (nomatch absent)⟩

theorem Reached.bridged {config : HostConfig} {guard : Guard} {run : HostRun}
    (reached : Reached config guard run) : Bridged config guard run := by
  refine reached.induction ?_ (fun run environment action bridged =>
    bridged.act environment action)
  intro environment world started after success
  obtain ⟨listener, sockets, -, rfl, -⟩ := eq_bound success
  refine ⟨?_, ?_, fun _ absent => nomatch absent⟩
  · intro host same
    cases same
    rfl
  · intro host same
    cases same
    rfl

theorem Reached.resolvable {config : HostConfig} {guard : Guard} {run : HostRun}
    (reached : Reached config guard run) : Resolvable config.primaryAddress := by
  obtain ⟨environment, world, started, after, actions, success, -⟩ := reached
  obtain ⟨listener, sockets, bound, -⟩ := eq_bound success
  exact Sockets.resolvable_of_bind bound

/-- Whatever port the network assigns, some host serves the bridge on it. -/
theorem reached_of_assignsAnyPort {config : HostConfig} {guard : Guard}
    (any : AssignsAnyPort config guard) (port : UInt16) :
    ∃ run address, Reached config guard run ∧ run.bridgeAddress? = some address ∧
      address.port = port := by
  obtain ⟨primary, _, _, primaryResolved⟩ := any.primary
  obtain ⟨bridge, first, _, bridgeResolved⟩ := any.bridge
  have written := Network.bindPort?_of_resolve bridgeResolved List.mem_cons_self
  have unasked : first.port = 0 := by
    rw [any.unasked, Option.some.injEq] at written
    exact written.symm
  have permitted : guard.Permits first.port := by
    rw [unasked]
    exact ⟨any.listed, by decide⟩
  obtain ⟨listener, sockets, opened⟩ := Sockets.bind_granting primaryResolved port {}
  let before : HostEnvironment := ⟨primary.granting port, fun _ _ => .clean⟩
  let later : HostEnvironment := ⟨bridge.granting port, fun _ _ => .clean⟩
  refine ⟨(bound config guard {} listener sockets).acts [(later, .operation .start)],
    Sockets.localAddress first port, ⟨before, {}, _, _, _, start_of_bind opened rfl, rfl⟩, ?_,
    Sockets.port_localAddress_zero unasked port⟩
  have started := (Host.bound config guard listener).bridgeAddress_start rfl rfl any.enabled
    bridgeResolved permitted port later.ending (bound config guard {} listener sockets).world
  exact started

/-- The bridge listens on an allowed port other than 80, except that it may listen on any
    port if it asks for port 0 and `0` is allowed. -/
theorem bridge_permitted_iff (config : HostConfig) (guard : Guard) :
    (∀ run, Reached config guard run → ∀ address, run.bridgeAddress? = some address →
      guard.Permits address.port) ↔ ¬ AssignsAnyPort config guard := by
  constructor
  · intro safe any
    -- the reserved port is one that no guard permits
    obtain ⟨run, address, reached, bridge, assigned⟩ := reached_of_assignsAnyPort any 80
    exact (safe run reached address bridge).2 assigned
  · intro fixed run reached address bridge
    have granted := reached.bridged.granted address bridge
    rcases granted.permits_or_zero with permitted | ⟨listed, unasked⟩
    · exact permitted
    · have any : AssignsAnyPort config guard :=
        ⟨granted.enabled, listed, unasked, granted.resolvable, reached.resolvable⟩
      exact absurd any fixed

/-- With `0` allowed the bridge may come to listen on 40001, which is not. -/
theorem bridge_not_permitted :
    let config : HostConfig := ⟨"unit", "127.0.0.1:0", true, "127.0.0.1:0"⟩
    let guard : Guard := ⟨.ofList ["0"]⟩
    ∃ run address, Reached config guard run ∧ run.bridgeAddress? = some address ∧
      address.port = 40001 ∧ ¬ guard.Permits address.port := by
  intro config guard
  have resolvable : Resolvable "127.0.0.1:0" :=
    ⟨(⟨[], 40000, []⟩ : LocalNetwork).network, .v4 ⟨127, 0, 0, 1⟩ 0, [], rfl⟩
  have any : AssignsAnyPort config guard :=
    ⟨rfl, by decide, by decide, resolvable, resolvable⟩
  obtain ⟨run, address, reached, bridge, assigned⟩ := reached_of_assignsAnyPort any 40001
  refine ⟨run, address, reached, bridge, assigned, ?_⟩
  rw [assigned]
  intro permitted
  exact absurd permitted.1 (by decide)

end HostRun

end RpcTransport
