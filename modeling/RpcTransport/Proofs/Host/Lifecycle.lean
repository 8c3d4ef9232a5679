import RpcTransport.Listener.LocalNetwork
import RpcTransport.Proofs.Host.Operations
import RpcTransport.Proofs.Host.Reached

/-! # The life of a host

What a host holds is settled by its state, whatever the network lets it bind and however its
tasks end; the state is settled by the operations alone. Services are registered when the
host leaves its first state, and at no other time.
-/

namespace RpcTransport

namespace HostState

/-- The state behind an operation. All but two combinations leave it as it is. -/
def next : HostState → HostOperation → HostState
  | .constructed, .start => .serving
  | .serving, .stop => .stopped
  | state, _ => state

def registrations (state later : HostState) : Nat :=
  if state = .constructed ∧ later ≠ .constructed then 1 else 0

theorem next_ne_constructed {state : HostState} (left : state ≠ .constructed)
    (operation : HostOperation) : state.next operation ≠ .constructed := by
  cases state <;> cases operation <;> simp_all [next]

theorem foldl_next_ne_constructed {state : HostState} (left : state ≠ .constructed)
    (operations : List HostOperation) : operations.foldl next state ≠ .constructed := by
  induction operations generalizing state with
  | nil => exact left
  | cons operation rest ih => exact ih (next_ne_constructed left operation)

@[simp] theorem registrations_self (state : HostState) :
    state.registrations state = 0 := by
  cases state <;> rfl

theorem registrations_next (state : HostState) (operation : HostOperation)
    (rest : List HostOperation) :
    state.registrations (state.next operation) +
        (state.next operation).registrations (rest.foldl next (state.next operation)) =
      state.registrations (rest.foldl next (state.next operation)) := by
  have serving : rest.foldl next .serving ≠ .constructed :=
    foldl_next_ne_constructed (by decide) rest
  cases state <;> cases operation <;> simp [next, registrations, serving]

end HostState

namespace Host

structure Waiting (host : Host) : Prop where
  held : host.primaryListener.isSome = true
  primary : host.primaryTask = none
  bridge : host.bridgeTask = none
  address : host.bridgeAddress = none
  untriggered : host.shutdown.flag = false

structure Active (host : Host) : Prop where
  handed : host.primaryListener = none
  primary : host.primaryTask.isSome = true
  /-- The bridge has an address exactly as long as it has a task. -/
  paired : host.bridgeAddress.isSome = host.bridgeTask.isSome
  plain : host.config.bridgeEnabled = false →
    host.bridgeTask = none ∧ host.bridgeAddress = none
  untriggered : host.shutdown.flag = false

structure Over (host : Host) : Prop where
  released : host.primaryListener = none
  primary : host.primaryTask = none
  bridge : host.bridgeTask = none
  address : host.bridgeAddress = none
  triggered : host.shutdown.flag = true

/-- What a host holds is what its state says. -/
inductive Consistent (host : Host) : Prop where
  | constructed (state : host.state = .constructed) (waiting : host.Waiting)
  | serving (state : host.state = .serving) (active : host.Active)
  | stopped (state : host.state = .stopped) (ended : host.Over)

theorem Consistent.waiting {host : Host} (consistent : host.Consistent)
    (constructed : host.state = .constructed) : host.Waiting := by
  cases consistent <;> simp_all

theorem Consistent.active {host : Host} (consistent : host.Consistent)
    (serving : host.state = .serving) : host.Active := by
  cases consistent <;> simp_all

/-- What an operation may do to a host and to the number of registrations. -/
structure Moves (operation : HostOperation) (host : Host) (world : HostWorld) (after : Host)
    (later : HostWorld) : Prop where
  consistent : after.Consistent
  config : after.config = host.config
  address : after.primaryAddress = host.primaryAddress
  state : after.state = host.state.next operation
  registrations : later.registrations =
    world.registrations + host.state.registrations (host.state.next operation)

theorem Consistent.moves_self {host : Host} (consistent : host.Consistent)
    {operation : HostOperation} (stays : host.state.next operation = host.state)
    {world later : HostWorld} (unregistered : later.registrations = world.registrations) :
    Moves operation host world host later :=
  ⟨consistent, rfl, rfl, stays.symm,
    by rw [stays, HostState.registrations_self, unregistered, Nat.add_zero]⟩

section Paths

variable {host : Host} {environment : HostEnvironment} {world : HostWorld}
  {outcome : HostOutcome}

theorem Waiting.active_serving (waiting : host.Waiting) (listener : Listener) :
    (host.serving listener).Active where
  handed := rfl
  primary := rfl
  paired := by simp only [serving, waiting.address, waiting.bridge, Option.isSome_none]
  plain _ := ⟨waiting.bridge, waiting.address⟩
  untriggered := waiting.untriggered

/-- Whatever becomes of the bridge, the primary server is as it was. -/
structure Sided (host : Host) (world : HostWorld) (outcome : HostOutcome) : Prop where
  active : outcome.2.1.Active
  config : outcome.2.1.config = host.config
  address : outcome.2.1.primaryAddress = host.primaryAddress
  state : outcome.2.1.state = host.state
  registrations : outcome.2.2.registrations = world.registrations

theorem BridgePath.sided (path : BridgePath host environment world outcome)
    (enabled : host.config.bridgeEnabled = true) (active : host.Active) :
    Sided host world outcome := by
  cases path with
  | unbound source sockets refused => exact ⟨active, rfl, rfl, rfl, rfl⟩
  | unread listener sockets cause opened lost => exact ⟨active, rfl, rfl, rfl, rfl⟩
  | bridged listener sockets opened read =>
      have both : (host.bridged listener).Active :=
        { handed := active.handed
          primary := active.primary
          paired := rfl
          plain := fun disabled => nomatch enabled.symm.trans disabled
          untriggered := active.untriggered }
      exact ⟨both, rfl, rfl, rfl, rfl⟩

/-- A start that is refused finds the primary listener gone already. -/
theorem Consistent.release (consistent : host.Consistent)
    (other : host.state ≠ .constructed ∨ host.primaryListener = none) :
    host.state ≠ .constructed ∧ { host with primaryListener := none } = host := by
  cases consistent with
  | constructed state waiting =>
      have held := waiting.held
      rcases other with other | other
      · exact absurd state other
      · simp [other] at held
  | serving state active =>
      refine ⟨by simp [state], ?_⟩
      rw [← active.handed]
  | stopped state ended =>
      refine ⟨by simp [state], ?_⟩
      rw [← ended.released]

theorem StartPath.moves (path : StartPath host environment world outcome)
    (consistent : host.Consistent) : Moves .start host world outcome.2.1 outcome.2.2 := by
  cases path with
  | refused other =>
      obtain ⟨left, same⟩ := consistent.release other
      have stays : host.state.next .start = host.state := by
        cases state : host.state <;> simp_all [HostState.next]
      rw [same]
      exact consistent.moves_self stays (HostWorld.registrations_close world _)
  | plain listener constructed held disabled =>
      have active := (consistent.waiting constructed).active_serving listener
      refine ⟨.serving rfl active, rfl, rfl, ?_, ?_⟩
      · rw [constructed]
        rfl
      · rw [constructed]
        rfl
  | bridge listener constructed held enabled path =>
      have active := (consistent.waiting constructed).active_serving listener
      have sided := path.sided enabled active
      refine ⟨.serving sided.state sided.active, sided.config, sided.address, ?_, ?_⟩
      · rw [sided.state, constructed]
        rfl
      · rw [sided.registrations, constructed]
        rfl

theorem Active.over_torndown (active : host.Active) : host.torndown.Over :=
  ⟨active.handed, rfl, rfl, rfl, rfl⟩

theorem StopPath.moves (path : StopPath host environment world outcome)
    (consistent : host.Consistent) : Moves .stop host world outcome.2.1 outcome.2.2 := by
  cases path with
  | refused other =>
      have stays : host.state.next .stop = host.state := by
        cases state : host.state <;> simp_all [HostState.next]
      exact consistent.moves_self stays rfl
  | stopped serving =>
      refine ⟨.stopped rfl (consistent.active serving).over_torndown, rfl, rfl, ?_, ?_⟩
      · rw [serving]
        rfl
      · simp [endedWorld, serving, HostState.next, HostState.registrations, HostWorld.note]

end Paths

theorem consistent_bound (config : HostConfig) (guard : Guard) (listener : Listener) :
    (bound config guard listener).Consistent :=
  .constructed rfl ⟨rfl, rfl, rfl, rfl, rfl⟩

end Host

namespace HostRun

def operate (run : HostRun) (operations : List (HostEnvironment × HostOperation)) : HostRun :=
  run.acts (operations.map fun (environment, operation) => (environment, .operation operation))

structure Operated (first : Host) (before : HostWorld) (operations : List HostOperation)
    (host : Host) (after : HostWorld) : Prop where
  consistent : host.Consistent
  config : host.config = first.config
  address : host.primaryAddress = first.primaryAddress
  state : host.state = operations.foldl .next first.state
  registrations : after.registrations =
    before.registrations + first.state.registrations host.state

theorem moves_act {host : Host} (consistent : host.Consistent) (world : HostWorld)
    (environment : HostEnvironment) (operation : HostOperation) :
    ∃ after later,
      (act ⟨some host, world⟩ environment (.operation operation)).2 = ⟨some after, later⟩ ∧
        host.Moves operation world after later := by
  cases operation with
  | start => exact ⟨_, _, rfl, (host.startPath environment world).moves consistent⟩
  | stop => exact ⟨_, _, rfl, (host.stopPath environment world).moves consistent⟩

theorem operated {host : Host} (consistent : host.Consistent) (world : HostWorld)
    (operations : List (HostEnvironment × HostOperation)) :
    ∃ last after, operate ⟨some host, world⟩ operations = ⟨some last, after⟩ ∧
      Operated host world (operations.map (·.2)) last after := by
  induction operations generalizing host world with
  | nil =>
      exact ⟨host, world, rfl, consistent, rfl, rfl, rfl, by
        rw [HostState.registrations_self, Nat.add_zero]⟩
  | cons first rest ih =>
      obtain ⟨environment, operation⟩ := first
      obtain ⟨between, later, acted, moved⟩ := moves_act consistent world environment operation
      obtain ⟨last, after, run, behind⟩ := ih moved.consistent later
      have state : last.state =
          (rest.map (·.2)).foldl HostState.next (host.state.next operation) := by
        rw [behind.state, moved.state]
      refine ⟨last, after, ?_, behind.consistent, behind.config.trans moved.config,
        behind.address.trans moved.address, state, ?_⟩
      · rw [← run, ← acted]
        rfl
      · rw [behind.registrations, moved.registrations, moved.state, state, Nat.add_assoc,
          HostState.registrations_next]

def Left (started : HostRun) (operations : List (HostEnvironment × HostOperation)) : Prop :=
  ∃ before, before <+: operations ∧
    ∃ host, (started.operate before).host = some host ∧ host.state ≠ .constructed

structure Lifecycle (config : HostConfig) (before : HostWorld) (started : HostRun)
    (operations : List (HostEnvironment × HostOperation)) : Prop where
  /-- There is the host, and it holds what its state says. -/
  consistent : ∃ host, (started.operate operations).host = some host ∧ host.Consistent
  /-- The state is what the operations come to. -/
  state : ∀ host, (started.operate operations).host = some host →
    host.state = (operations.map (·.2)).foldl .next .constructed
  /-- Name and address are those from the bind. -/
  identity : ∀ first host, started.host = some first →
    (started.operate operations).host = some host →
      host.primaryAddress = first.primaryAddress ∧ host.serviceName = config.serviceName
  once : started.Left operations →
    (started.operate operations).world.registrations = before.registrations + 1
  never : ¬ started.Left operations →
    (started.operate operations).world.registrations = before.registrations

theorem left_iff {first last : Host} {world later : HostWorld}
    {operations : List (HostEnvironment × HostOperation)} (consistent : first.Consistent)
    (run : operate ⟨some first, world⟩ operations = ⟨some last, later⟩)
    (state : last.state = (operations.map (·.2)).foldl .next first.state) :
    Left ⟨some first, world⟩ operations ↔ last.state ≠ .constructed := by
  constructor
  · rintro ⟨before, ⟨rest, rfl⟩, host, reached, left⟩
    obtain ⟨between, _, ran, behind⟩ := operated consistent world before
    rw [ran] at reached
    cases reached
    rw [state, List.map_append, List.foldl_append, ← behind.state]
    exact HostState.foldl_next_ne_constructed left _
  · intro left
    exact ⟨operations, List.prefix_rfl, last, by rw [run], left⟩

/-- A host that is bound holds at all times what its state says, its state follows the
    operations, and its services are registered once, when it leaves its first state. -/
theorem operate_lifecycle {config : HostConfig} {guard : Guard} {environment : HostEnvironment}
    {world after : HostWorld} {started : HostRun}
    (success : start config guard environment world = (.ok started, after))
    (operations : List (HostEnvironment × HostOperation)) :
    Lifecycle config world started operations := by
  obtain ⟨listener, sockets, -, rfl, -⟩ := eq_bound success
  have consistent := Host.consistent_bound config guard listener
  obtain ⟨last, later, run, behind⟩ :=
    operated consistent { world with sockets := sockets } operations
  have left := left_iff consistent run behind.state
  have count := behind.registrations
  refine ⟨⟨last, by rw [bound, run], behind.consistent⟩, ?_, ?_, ?_, ?_⟩
  · intro host same
    rw [bound, run] at same
    cases same
    exact behind.state
  · intro first host bind same
    rw [bound, run] at same
    cases bind
    cases same
    exact ⟨behind.address, congrArg HostConfig.serviceName behind.config⟩
  · intro moved
    have away : last.state ≠ .constructed := left.mp moved
    rw [bound, run, count]
    simp [HostState.registrations, Host.bound, away]
  · intro stayed
    have still : last.state = .constructed := Decidable.of_not_not (mt left.mpr stayed)
    rw [bound, run, count]
    simp [HostState.registrations, still]

/-- A host with a bridge is started twice and stopped. -/
theorem lifecycle_started_stopped :
    let environment : HostEnvironment :=
      ⟨(⟨[], 40000, []⟩ : LocalNetwork).network, fun _ _ => .clean⟩
    let config : HostConfig := ⟨"unit", "127.0.0.1:0", true, "127.0.0.1:9091"⟩
    let guard : Guard := ⟨.ofList ["9091"]⟩
    ∃ started after, start config guard environment {} = (.ok started, after) ∧
      Lifecycle config {} started
        [(environment, .start), (environment, .start), (environment, .stop)] := by
  obtain ⟨sockets, opened⟩ : ∃ sockets,
      ({} : Sockets).bind (⟨[], 40000, []⟩ : LocalNetwork).network "127.0.0.1:0" =
        (.ok ⟨0, .primary, .v4 ⟨127, 0, 0, 1⟩ 40000⟩, sockets) := ⟨_, rfl⟩
  intro environment config guard
  have success : start config guard environment {} = (.ok _, _) := start_of_bind opened rfl
  exact ⟨_, _, success, operate_lifecycle success _⟩

end HostRun

end RpcTransport
