import RpcTransport.Proofs.Program.Preliminary

/-! # The order of a launch

A launch ends with the error of its first stage that fails, and if none does, with that of
the first server that does not end cleanly. Whichever it is, no server listens any more.
-/

namespace RpcTransport

namespace LaunchInputs

variable (inputs : LaunchInputs)

def joins : Option StartupError → List Join
  | none => inputs.servers.map (⟨·, true⟩)
  | some error => if error.stage? = some .bridge then [⟨.primary, true⟩] else []

/-- What a launch comes to if these stages are left. -/
structure Settled (stages : List Stage) (outcome : Except StartupError Unit × HostWorld) :
    Prop where
  result : outcome.1 =
    attained () ((stages.findSome? inputs.failure?).or inputs.serverFailure?)
  joins : outcome.2.joins = inputs.joins (stages.findSome? inputs.failure?)
  quiet : outcome.2.Quiet
  unopened : ∀ stage ∈ stages, stage ∈ Stage.preliminary → inputs.failure? stage ≠ none →
    ∀ attempt ∈ outcome.2.sockets.attempts, attempt.1 = .metrics

namespace Settled

variable {inputs} {stage : Stage} {stages : List Stage} {error : StartupError}
  {outcome : Except StartupError Unit × HostWorld} {world : HostWorld}

theorem pass (passed : inputs.failure? stage = none) (settled : inputs.Settled stages outcome) :
    inputs.Settled (stage :: stages) outcome := by
  have same : (stage :: stages).findSome? inputs.failure? = stages.findSome? inputs.failure? := by
    rw [List.findSome?_cons, passed]
  refine ⟨same ▸ settled.result, same ▸ settled.joins, settled.quiet, ?_⟩
  intro other member
  rcases List.mem_cons.mp member with rfl | later
  · exact fun _ failed => absurd passed failed
  · exact settled.unopened other later

theorem fail (failed : inputs.failure? stage = some error) (earlier : stage ≠ .bridge)
    (quiet : world.Quiet) (joins : world.joins = [])
    (unopened : ∀ other ∈ stage :: stages, other ∈ Stage.preliminary →
      ∀ attempt ∈ world.sockets.attempts, attempt.1 = .metrics) :
    inputs.Settled (stage :: stages) (.error error, world) := by
  have first : (stage :: stages).findSome? inputs.failure? = some error := by
    rw [List.findSome?_cons, failed]
  have other : error.stage? ≠ some .bridge := by
    rw [inputs.stage?_of_failure failed]
    simpa using earlier
  constructor
  · rw [first]
    rfl
  · rw [first, LaunchInputs.joins, if_neg other]
    exact joins
  · exact quiet
  · exact fun other member preliminary _ => unopened other member preliminary

theorem fail_untouched (failed : inputs.failure? stage = some error) (earlier : stage ≠ .bridge)
    (untouched : world.Untouched) : inputs.Settled (stage :: stages) (.error error, world) :=
  .fail failed earlier untouched.quiet untouched.joins fun _ _ _ => untouched.attempts

end Settled

section Serving

variable {inputs} {host : Host} {world : HostWorld}

structure Serves (inputs : LaunchInputs) (host : Host) (world : HostWorld) : Prop where
  state : host.state = .serving
  active : host.Active
  covers : host.Covers world
  joins : world.joins = []

theorem Serves.joins_endedWorld (serves : inputs.Serves host world)
    (bridge : host.bridgeTask.isSome = inputs.config.host.bridgeEnabled) :
    (host.endedWorld inputs.environment.host world).joins = inputs.servers.map (⟨·, true⟩) := by
  obtain ⟨task, primary⟩ := Option.isSome_iff_exists.mp serves.active.primary
  rw [Host.joins_endedWorld, serves.joins, primary, servers, ← bridge]
  cases host.bridgeTask <;> rfl

/-- The failure of a stop is that of the first server that fails. -/
theorem Serves.stopResult_eq (serves : inputs.Serves host world)
    (bridge : host.bridgeTask.isSome = inputs.config.host.bridgeEnabled) :
    (host.stopResult inputs.environment.host).mapError .host =
      attained () inputs.serverFailure? := by
  obtain ⟨task, primary⟩ := Option.isSome_iff_exists.mp serves.active.primary
  rw [Host.stopResult, primary, serverFailure?, servers, ← bridge]
  simp only [HostWorld.joinResult]
  cases host.bridgeTask with
  | none =>
      simp only [Option.isSome_none, Bool.false_eq_true, if_false, List.findSome?_cons,
        List.findSome?_nil]
      cases (inputs.environment.host.ending .primary true).failure? <;> rfl
  | some task =>
      simp only [Option.isSome_some, if_true, List.findSome?_cons, List.findSome?_nil]
      cases (inputs.environment.host.ending .primary true).failure? <;>
        cases (inputs.environment.host.ending .bridge true).failure? <;> rfl

theorem settled_serve (serves : inputs.Serves host world)
    (bridge : host.bridgeTask.isSome = inputs.config.host.bridgeEnabled) :
    inputs.Settled [] (Launch.serve inputs.environment host world) := by
  have signalled : inputs.Serves host (world.note .signalReceived) :=
    ⟨serves.state, serves.active, serves.covers, serves.joins⟩
  have result := serves.stopResult_eq bridge
  have joins := signalled.joins_endedWorld bridge
  have quiet := serves.active.quiet_endedWorld inputs.environment.host serves.state
    signalled.covers
  rw [Launch.serve, Host.stop_of_serving serves.state]
  cases failure : host.stopResult inputs.environment.host with
  | ok =>
      rw [failure] at result
      simp only [serves.active.over_torndown.discard_eq]
      exact ⟨result, joins, quiet, by simp⟩
  | error e =>
      rw [failure] at result
      simp only [serves.active.over_torndown.discard_eq]
      exact ⟨result, joins, quiet, by simp⟩

/-- To abandon a host is to stop it; how its servers end is only logged. -/
theorem Serves.abandon_cases (serves : inputs.Serves host world) :
    Launch.abandon inputs.environment host world =
        host.endedWorld inputs.environment.host world ∨
      ∃ message, Launch.abandon inputs.environment host world =
        (host.endedWorld inputs.environment.host world).note (.stopFailed message) := by
  rw [Launch.abandon, Host.stop_of_serving serves.state]
  cases host.stopResult inputs.environment.host with
  | ok => exact .inl (serves.active.over_torndown.discard_eq _)
  | error e => exact .inr ⟨e.message, serves.active.over_torndown.discard_eq _⟩

theorem settled_abandon (serves : inputs.Serves host world) (unbridged : host.bridgeTask = none)
    {e : HostError} (failed : inputs.failure? .bridge = some (.host e)) :
    inputs.Settled [.bridge] (.error (.host e), Launch.abandon inputs.environment host world) := by
  have first : [Stage.bridge].findSome? inputs.failure? = some (.host e) := by
    rw [List.findSome?_cons, failed]
  have ended : (host.endedWorld inputs.environment.host world).joins = inputs.joins
      (some (.host e)) := by
    obtain ⟨task, primary⟩ := Option.isSome_iff_exists.mp serves.active.primary
    rw [Host.joins_endedWorld, serves.joins, primary, unbridged, LaunchInputs.joins,
      if_pos (inputs.stage?_of_failure failed)]
    rfl
  have quiet := serves.active.quiet_endedWorld inputs.environment.host serves.state serves.covers
  constructor
  · rw [first]
    rfl
  · rw [first, ← ended]
    rcases serves.abandon_cases with same | ⟨message, noted⟩
    · rw [same]
    · rw [noted]
      rfl
  · rcases serves.abandon_cases with same | ⟨message, noted⟩
    · rw [same]
      exact quiet
    · rw [noted]
      exact quiet
  · simp [Stage.preliminary]

theorem settled_startBridge (serves : inputs.Serves host inputs.servingWorld)
    (config : host.config = inputs.config.host) (guard : host.guard = inputs.guard)
    (unbridged : host.bridgeTask = none) (enabled : inputs.config.host.bridgeEnabled = true) :
    inputs.Settled [.bridge]
      (match host.startBridge inputs.environment.host inputs.servingWorld with
        | (.error e, host, world) =>
          (.error (.host e), Launch.abandon inputs.environment host world)
        | (.ok (), host, world) => Launch.serve inputs.environment host world) := by
  have path := host.bridgePath inputs.environment.host inputs.servingWorld
  have covers := path.covers unbridged serves.covers
  have sided := path.sided (by rw [config, enabled]) serves.active
  have stage : inputs.failure? .bridge =
      (inputs.environment.host.network.bindFailure? (inputs.servingWorld.sockets.guardedBind
        inputs.environment.host.network host.guard host.config.bridgeAddress)).map fun source =>
          .host (.ofBridge host.config.bridgeAddress source) := by
    simp only [failure?, enabled, if_true, config, guard]
  generalize host.startBridge inputs.environment.host inputs.servingWorld = outcome at *
  cases path with
  | unbound source sockets refused =>
      rw [refused] at stage
      exact settled_abandon ⟨serves.state, serves.active, covers, serves.joins⟩ unbridged stage
  | unread listener sockets cause opened lost =>
      simp only [opened, Network.bindFailure?, lost] at stage
      exact settled_abandon ⟨serves.state, serves.active, covers, serves.joins⟩ unbridged stage
  | bridged listener sockets opened read =>
      simp only [opened, Network.bindFailure?, read] at stage
      exact .pass stage
        (settled_serve ⟨serves.state, sided.active, covers, serves.joins⟩ enabled.symm)

theorem settled_start {listener : Listener}
    (serves : inputs.Serves ((Host.bound inputs.config.host inputs.guard listener).serving
      listener) inputs.servingWorld)
    (behind : inputs.servingWorld =
      (Host.bound inputs.config.host inputs.guard listener).servingWorld world) :
    inputs.Settled [.bridge]
      (match (Host.bound inputs.config.host inputs.guard listener).start inputs.environment.host
          world with
        | (.error e, host, world) =>
          (.error (.host e), Launch.abandon inputs.environment host world)
        | (.ok (), host, world) => Launch.serve inputs.environment host world) := by
  rw [Host.start_of_constructed rfl rfl, ← behind]
  cases enabled : inputs.config.host.bridgeEnabled with
  | false =>
      have unwanted : inputs.failure? .bridge = none := by simp [failure?, enabled]
      simp only [Host.bound, enabled, Bool.false_eq_true, if_false]
      exact .pass unwanted (settled_serve serves enabled.symm)
  | true =>
      simp only [Host.bound, enabled, if_true]
      exact settled_startBridge serves rfl rfl rfl enabled

theorem failure_primary_eq (inputs : LaunchInputs) : inputs.failure? .primary =
    (failureOf (Host.bind inputs.config.host inputs.guard inputs.environment.host
      inputs.guardWorld).1).map .host := by
  have path := Host.bindPath inputs.config.host inputs.guard inputs.environment.host
    inputs.guardWorld
  generalize Host.bind inputs.config.host inputs.guard inputs.environment.host
    inputs.guardWorld = outcome at path
  cases path with
  | unbound source sockets refused => simp [failure?, refused, Network.bindFailure?, failureOf]
  | unread listener sockets cause opened lost =>
      simp [failure?, opened, Network.bindFailure?, lost, failureOf]
  | bound listener sockets opened read =>
      simp [failure?, opened, Network.bindFailure?, read, failureOf]

theorem settled_runHost (inputs : LaunchInputs) : inputs.Settled [.primary, .bridge]
    (Launch.runHost inputs.environment inputs.config.host inputs.guard inputs.guardWorld) := by
  have untouched := inputs.untouched_guardWorld
  have stage := inputs.failure_primary_eq
  have path := Host.bindPath inputs.config.host inputs.guard inputs.environment.host
    inputs.guardWorld
  rw [Launch.runHost]
  cases bound : Host.bind inputs.config.host inputs.guard inputs.environment.host
      inputs.guardWorld with
  | mk result after =>
      rw [bound] at path stage
      cases result with
      | error e =>
          have joins : after.joins = [] := by
            cases path <;> exact untouched.joins
          exact .fail stage (by simp) (path.quiet untouched.quiet) joins
            (by simp [Stage.preliminary])
      | ok host =>
          have covers := path.covers untouched.quiet
          have behind : inputs.servingWorld = host.servingWorld after := by
            rw [servingWorld, bound]
          cases path with
          | bound listener sockets opened read =>
              have waiting := (Host.consistent_bound inputs.config.host inputs.guard
                listener).waiting rfl
              have serves : inputs.Serves ((Host.bound inputs.config.host inputs.guard
                  listener).serving listener) inputs.servingWorld := by
                rw [behind]
                exact ⟨rfl, waiting.active_serving listener, waiting.covers_serving rfl covers,
                  untouched.joins⟩
              exact .pass stage (settled_start serves behind)

end Serving

theorem settled_runLogged :
    inputs.Settled [.metrics, .systemConfig, .guard, .primary, .bridge]
      (Launch.runLogged inputs.environment inputs.config inputs.systemPath
        inputs.loggedWorld) := by
  rw [Launch.runLogged, startMetrics_eq]
  cases metrics : inputs.failure? .metrics with
  | some error => exact .fail_untouched metrics (by simp) inputs.untouched_metricsWorld
  | none =>
      refine .pass metrics ?_
      simp only [attained]
      rw [← systemSource, readSystem_eq]
      cases systemConfig : inputs.failure? .systemConfig with
      | some error => exact .fail_untouched systemConfig (by simp) inputs.untouched_systemWorld
      | none =>
          refine .pass systemConfig ?_
          simp only [attained]
          rw [makeGuard_eq]
          cases guard : inputs.failure? .guard with
          | some error => exact .fail_untouched guard (by simp) inputs.untouched_guardWorld
          | none => exact .pass guard inputs.settled_runHost

theorem settled_report :
    inputs.Settled Stage.all (inputs.report.result, inputs.report.world) := by
  rcases inputs.readConfig_eq with read | ⟨e, unread, failed, -⟩
  · have configuration : inputs.failure? .configuration = none := by
      simp [failure?, read, failureOf]
    refine .pass configuration ?_
    simp only [report, launch, read]
    cases taken : inputs.environment.loggerTaken with
    | true =>
        have logging : inputs.failure? .logging = some .logging := by simp [failure?, taken]
        exact .fail_untouched logging (by simp) .empty
    | false =>
        have logging : inputs.failure? .logging = none := by simp [failure?, taken]
        exact .pass logging inputs.settled_runLogged
  · simp only [report, launch, unread]
    exact .fail_untouched failed (by simp) .empty

structure Orderly : Prop where
  /-- The first stage that fails ends the launch with its error. -/
  failed : ∀ error, inputs.firstFailure? = some error → inputs.report.result = .error error
  /-- The error of a stage tells the stage. -/
  own : ∀ stage error, inputs.failure? stage = some error → error.stage? = some stage
  /-- Behind all stages, only a server can fail. -/
  served : inputs.firstFailure? = none →
    inputs.report.result = attained () inputs.serverFailure?
  unopened : ∀ stage ∈ Stage.preliminary, inputs.failure? stage ≠ none →
    ∀ attempt ∈ inputs.report.world.sockets.attempts, attempt.1 = .metrics
  metricsAddress : ∀ address, inputs.report.result ≠ .error (.metricsAddress address)
  invalidState : ∀ operation state,
    inputs.report.result ≠ .error (.host (.invalidState operation state))
  /-- However a launch ends, no server listens. -/
  released : ∀ listener ∈ inputs.report.world.sockets.listening, listener.role = .metrics
  /-- A failure of the bridge is returned after the primary server was told to end and has
      ended. -/
  stopped : ∀ error, inputs.firstFailure? = some error → error.stage? = some .bridge →
    inputs.report.world.joins = [⟨.primary, true⟩]
  /-- After a signal, all servers are told to end, and have ended. -/
  torndown : inputs.firstFailure? = none →
    inputs.report.world.joins = inputs.servers.map (⟨·, true⟩)

theorem error_cases {error : StartupError} (failed : inputs.report.result = .error error) :
    (∃ stage, error.stage? = some stage) ∨
      ∃ server message, error = .host (.serve server message) := by
  have result := inputs.settled_report.result
  rw [failed, ← firstFailure?] at result
  cases first : inputs.firstFailure? with
  | some cause =>
      rw [first] at result
      cases result
      obtain ⟨stage, -, own⟩ := List.exists_of_findSome?_eq_some first
      exact .inl ⟨stage, inputs.stage?_of_failure own⟩
  | none =>
      rw [first, Option.none_or] at result
      cases ended : inputs.serverFailure? with
      | some cause =>
          rw [ended] at result
          cases result
          obtain ⟨server, -, abnormal⟩ := List.exists_of_findSome?_eq_some ended
          obtain ⟨message, -, rfl⟩ := Option.map_eq_some_iff.mp abnormal
          exact .inr ⟨server, message, rfl⟩
      | none =>
          rw [ended] at result
          cases result

/-- Every launch keeps the order of its stages and leaves no server behind. -/
theorem orderly : inputs.Orderly := by
  have settled := inputs.settled_report
  have result := settled.result
  have joins := settled.joins
  rw [← firstFailure?] at result joins
  constructor
  case failed =>
    intro error first
    rw [first] at result
    exact result
  case own => exact fun stage error => inputs.stage?_of_failure
  case served =>
    intro passed
    rw [passed] at result
    exact result
  case unopened =>
    intro stage preliminary
    exact settled.unopened stage (List.mem_append_left _ preliminary) preliminary
  case metricsAddress =>
    -- neither a stage nor a server has this error
    intro address failed
    rcases inputs.error_cases failed with ⟨stage, named⟩ | ⟨server, message, same⟩
    · cases named
    · cases same
  case invalidState =>
    intro operation state failed
    rcases inputs.error_cases failed with ⟨stage, named⟩ | ⟨server, message, same⟩
    · cases named
    · cases same
  case released => exact settled.quiet
  case stopped =>
    intro error first bridge
    rw [first, LaunchInputs.joins, if_pos bridge] at joins
    exact joins
  case torndown =>
    intro passed
    rw [passed] at joins
    exact joins

end LaunchInputs

end RpcTransport
