import RpcTransport.Proofs.Host.Lifecycle
import RpcTransport.Proofs.Listener.Gained
import RpcTransport.Proofs.Listener.Opened

/-! # Starts that lose the bridge

A bridge that cannot be bound makes a start fail when the primary server already serves. What
is left is a host that serves without a bridge. It is not started again, and a stop brings it
to its end as any other.
-/

namespace RpcTransport

/-- Why a bridge cannot be had: no listener comes of the guarded bind, or the address of the
    listener cannot be read back. -/
inductive Sockets.BridgeFails (sockets : Sockets) (network : Network) (guard : Guard)
    (address : String) : ListenerError → Prop where
  | unbound {source : ListenerError} {after : Sockets}
      (refused : sockets.guardedBind network guard address = (.error source, after)) :
      BridgeFails sockets network guard address source
  | unread {listener : Listener} {after : Sockets} {cause : String}
      (opened : sockets.guardedBind network guard address = (.ok listener, after))
      (lost : after.readAddress network listener = .error cause) :
      BridgeFails sockets network guard address (.unbound cause)

namespace Host

/-- A bridge that does not fail is served. -/
theorem exists_bridgeFails_iff (host : Host) (environment : HostEnvironment)
    (world : HostWorld) :
    (∃ source, world.sockets.BridgeFails environment.network host.guard
      host.config.bridgeAddress source) ↔
      ∃ e, (host.startBridge environment world).1 = .error e := by
  constructor
  · rintro ⟨source, fails⟩
    cases fails with
    | unbound refused => simp [startBridge, refused]
    | unread opened lost => simp [startBridge, opened, lost]
  · have path := host.bridgePath environment world
    generalize host.startBridge environment world = outcome at path
    rintro ⟨e, failed⟩
    cases path with
    | unbound source sockets refused => exact ⟨source, .unbound refused⟩
    | unread listener sockets cause opened lost => exact ⟨_, .unread opened lost⟩
    | bridged listener sockets opened read => cases failed

/-- A bridge that fails leaves its host as it was, and no listener. -/
theorem startBridge_of_fails (host : Host) (world : HostWorld) {environment : HostEnvironment}
    {source : ListenerError} (orderly : world.sockets.Orderly)
    (fails : world.sockets.BridgeFails environment.network host.guard host.config.bridgeAddress
      source) :
    ∃ later, host.startBridge environment world =
        (.error (.ofBridge host.config.bridgeAddress source), host, later) ∧
      later.sockets.listening = world.sockets.listening := by
  cases fails with
  | unbound refused =>
      have unchanged := Sockets.listening_of_guardedBind refused
      simp only [startBridge, refused]
      exact ⟨_, rfl, unchanged⟩
  | unread opened lost =>
      have unchanged := (Sockets.gains_guardedBind opened).listening_close orderly
      simp only [startBridge, opened, lost]
      exact ⟨_, rfl, unchanged⟩

/-- What a start comes to that loses the bridge, for a host that was bound among some other
    listeners. -/
structure LosesBridge (host : Host) (address : String) (source : ListenerError)
    (others : List Listener) (outcome : HostOutcome) : Prop where
  /-- A refusal by the guard is told apart from all other failures. -/
  rejected : ∀ error, source = .rejected error →
    outcome.1 = .error (.listenerRejected address error)
  unbound : (∀ error, source ≠ .rejected error) → outcome.1 = .error (.bridgeBind address source)
  serving : outcome.2.1.state = .serving
  primaryAddress : outcome.2.1.primaryAddress = host.primaryAddress
  unbridged : outcome.2.1.bridgeAddress = none ∧ outcome.2.1.bridgeTask = none
  /-- The primary listener is in the hands of its task, and besides the others nothing else
      listens. -/
  primary : ∃ listener, outcome.2.1.primaryTask = some listener ∧ listener.role = .primary ∧
    listener.localAddress = host.primaryAddress ∧
      outcome.2.2.sockets.listening = others ++ [listener]
  /-- Another start changes nothing. -/
  restart (environment : HostEnvironment) : outcome.2.1.start environment outcome.2.2 =
    (.error (.invalidState .start .serving), outcome.2)
  /-- A stop succeeds, and only the others are left. -/
  stop (environment : HostEnvironment) : environment.ending .primary true = .clean →
    ∃ last after, outcome.2.1.stop environment outcome.2.2 = (.ok (), last, after) ∧
      last.state = .stopped ∧ after.sockets.listening = others

section Loss

variable {host : Host} {world : HostWorld} {primary : Listener} {others : List Listener}

theorem stopResult_of_clean {environment : HostEnvironment} (unbridged : host.bridgeTask = none)
    (clean : environment.ending .primary true = .clean) :
    host.stopResult environment = .ok () := by
  rw [stopResult, unbridged]
  cases host.primaryTask with
  | none => rfl
  | some listener => simp [HostWorld.joinResult, clean, Ending.failure?, firstFailure]

theorem listening_endedWorld {environment : HostEnvironment} (unbridged : host.bridgeTask = none)
    (task : host.primaryTask = some primary)
    (listening : world.sockets.listening = others ++ [primary])
    (below : ∀ other ∈ others, other.number < primary.number) :
    (host.endedWorld environment world).sockets.listening = others := by
  have closed : (host.endedWorld environment world).sockets.listening =
      (world.sockets.close primary).listening := by
    rw [endedWorld, unbridged, task]
    exact HostWorld.listening_joined world environment .primary true (some primary)
  rw [closed]
  exact Sockets.listening_close_of_last listening below

theorem Waiting.losesBridge (waiting : host.Waiting) (constructed : host.state = .constructed)
    (held : host.primaryListener = some primary) (role : primary.role = .primary)
    (address : primary.localAddress = host.primaryAddress)
    (orderly : world.sockets.Orderly)
    (listening : world.sockets.listening = others ++ [primary])
    (below : ∀ other ∈ others, other.number < primary.number)
    (enabled : host.config.bridgeEnabled = true) {environment : HostEnvironment}
    {source : ListenerError}
    (fails : (host.servingWorld world).sockets.BridgeFails environment.network host.guard
      host.config.bridgeAddress source) :
    host.LosesBridge host.config.bridgeAddress source others (host.start environment world) := by
  obtain ⟨later, lost, unchanged⟩ :=
    (host.serving primary).startBridge_of_fails (host.servingWorld world) orderly fails
  have remains : later.sockets.listening = others ++ [primary] := unchanged.trans listening
  rw [start_of_constructed constructed held, if_pos enabled, lost]
  constructor
  case rejected =>
    rintro error rfl
    rfl
  case unbound =>
    intro unrejected
    cases source with
    | rejected error => exact absurd rfl (unrejected error)
    | unresolved address cause => rfl
    | unbound cause => rfl
  case serving => rfl
  case primaryAddress => rfl
  case unbridged => exact ⟨waiting.address, waiting.bridge⟩
  case primary => exact ⟨primary, rfl, role, address, remains⟩
  case restart => exact fun environment => start_of_refused (.inl (by simp [serving])) _ _
  case stop =>
    intro ending clean
    have unbridged : (host.serving primary).bridgeTask = none := waiting.bridge
    have stopped : (host.serving primary).stop ending later =
        (.ok (), (host.serving primary).torndown,
          (host.serving primary).endedWorld ending later) := by
      rw [stop_of_serving rfl, stopResult_of_clean unbridged clean]
    exact ⟨_, _, stopped, rfl, listening_endedWorld unbridged rfl remains below⟩

end Loss

end Host

theorem HostState.constructed_of_foldl {state : HostState} {operations : List HostOperation}
    (constructed : operations.foldl next state = .constructed) :
    state = .constructed ∧ ∀ operation ∈ operations, operation = .stop := by
  induction operations generalizing state with
  | nil => exact ⟨constructed, by simp⟩
  | cons operation rest ih =>
      obtain ⟨first, stops⟩ := ih constructed
      have both : state = .constructed ∧ operation = .stop := by
        cases state <;> cases operation <;> simp_all [next]
      exact ⟨both.1, List.forall_mem_cons.mpr ⟨both.2, stops⟩⟩

namespace HostRun

theorem operate_stops {host : Host} (constructed : host.state = .constructed) (world : HostWorld)
    {operations : List (HostEnvironment × HostOperation)}
    (stops : ∀ step ∈ operations, step.2 = .stop) :
    operate ⟨some host, world⟩ operations = ⟨some host, world⟩ := by
  induction operations with
  | nil => rfl
  | cons step rest ih =>
      obtain ⟨environment, operation⟩ := step
      obtain ⟨stop, others⟩ := List.forall_mem_cons.mp stops
      obtain rfl : operation = .stop := stop
      have other : host.state ≠ .serving := by simp [constructed]
      have refused := Host.stop_of_refused other environment world
      have acted : (act ⟨some host, world⟩ environment (.operation .stop)).2 =
          ⟨some host, world⟩ := by
        simp only [act, refused]
      calc operate ⟨some host, world⟩ ((environment, .stop) :: rest)
          = operate (act ⟨some host, world⟩ environment (.operation .stop)).2 rest := rfl
        _ = ⟨some host, world⟩ := by rw [acted, ih others]

theorem eq_of_constructed {host last : Host} {world later : HostWorld}
    {operations : List (HostEnvironment × HostOperation)} (consistent : host.Consistent)
    (ran : operate ⟨some host, world⟩ operations = ⟨some last, later⟩)
    (constructed : last.state = .constructed) :
    last = host ∧ later = world := by
  obtain ⟨_, _, run, behind⟩ := operated consistent world operations
  cases ran.symm.trans run
  -- a start anywhere in the run would have left the first state for good
  obtain ⟨first, stops⟩ := HostState.constructed_of_foldl (behind.state.symm.trans constructed)
  have same := operate_stops first world fun step member =>
    stops step.2 (List.mem_map_of_mem member)
  cases ran.symm.trans same
  exact ⟨rfl, rfl⟩

/-- A host that was bound and not yet started survives the loss of its bridge: the start tells
    why, and what is left can still be stopped. -/
theorem start_losesBridge {config : HostConfig} {guard : Guard} {environment : HostEnvironment}
    {world after : HostWorld} {started : HostRun} (orderly : world.sockets.Orderly)
    (success : start config guard environment world = (.ok started, after))
    (enabled : config.bridgeEnabled = true)
    {operations : List (HostEnvironment × HostOperation)} {host : Host} {present : HostWorld}
    (reached : started.operate operations = ⟨some host, present⟩)
    (constructed : host.state = .constructed) {later : HostEnvironment} {source : ListenerError}
    (fails : (host.servingWorld present).sockets.BridgeFails later.network guard
      config.bridgeAddress source) :
    host.LosesBridge config.bridgeAddress source world.sockets.listening
      (host.start later present) := by
  obtain ⟨listener, sockets, opened, rfl, -⟩ := eq_bound success
  obtain ⟨rfl, rfl⟩ := eq_of_constructed (Host.consistent_bound config guard listener) reached
    constructed
  have gains := Sockets.gains_bind opened
  have role : listener.role = .primary := by
    have opens := world.sockets.opens_bind environment.network config.primaryAddress
    rw [opened] at opens
    exact opens.role listener rfl
  have below : ∀ other ∈ world.sockets.listening, other.number < listener.number := by
    rw [gains.number]
    exact orderly
  exact ((Host.consistent_bound config guard listener).waiting rfl).losesBridge rfl rfl role rfl
    (gains.orderly_after orderly) gains.listening below enabled fails

/-- The guard allows no port, so the bridge is refused. -/
theorem losesBridge_refused :
    let environment : HostEnvironment :=
      ⟨(⟨[], 40000, []⟩ : LocalNetwork).network, fun _ _ => .clean⟩
    let config : HostConfig := ⟨"unit", "127.0.0.1:0", true, "127.0.0.1:9091"⟩
    ∃ started after host, start config {} environment {} = (.ok started, after) ∧
      started.host = some host ∧
        host.LosesBridge "127.0.0.1:9091" (.rejected (.unsafePort "9091")) []
          (host.start environment after) := by
  obtain ⟨sockets, opened⟩ : ∃ sockets,
      ({} : Sockets).bind (⟨[], 40000, []⟩ : LocalNetwork).network "127.0.0.1:0" =
        (.ok ⟨0, .primary, .v4 ⟨127, 0, 0, 1⟩ 40000⟩, sockets) := ⟨_, rfl⟩
  have fails (sockets : Sockets) : sockets.BridgeFails (⟨[], 40000, []⟩ : LocalNetwork).network {}
      "127.0.0.1:9091" (.rejected (.unsafePort "9091")) := by
    obtain ⟨after, refused⟩ : ∃ after,
        sockets.guardedBind (⟨[], 40000, []⟩ : LocalNetwork).network {} "127.0.0.1:9091" =
          (.error (.rejected (.unsafePort "9091")), after) := ⟨_, rfl⟩
    exact .unbound refused
  intro environment config
  have success : start config {} environment {} = (.ok _, _) := start_of_bind opened rfl
  have orderly : ({} : Sockets).Orderly := by simp [Sockets.Orderly]
  have reached (run : HostRun) : run.operate [] = run := rfl
  exact ⟨_, _, _, success, rfl,
    start_losesBridge orderly success rfl (reached _) rfl (fails _)⟩

end HostRun

end RpcTransport
