import RpcTransport.Proofs.Config.Checked
import RpcTransport.Proofs.Host.Held
import RpcTransport.Proofs.Program.Stages

/-! # The preliminary stages of a launch

Each stage before the listeners comes to its value or its error, and touches nothing of the
servers. The metrics always have an address to listen on: the check of the configuration sees
to that.
-/

namespace RpcTransport

/-- No socket has been made for a server, and no server has been waited for. -/
structure HostWorld.Untouched (world : HostWorld) : Prop where
  quiet : world.Quiet
  attempts : ∀ attempt ∈ world.sockets.attempts, attempt.1 = .metrics
  joins : world.joins = []

namespace HostWorld.Untouched

variable {world : HostWorld}

theorem empty : Untouched {} :=
  ⟨by simp [Quiet], by simp, rfl⟩

theorem note (untouched : world.Untouched) (notice : Notice) : (world.note notice).Untouched :=
  ⟨untouched.quiet, untouched.attempts, untouched.joins⟩

theorem noteAll (untouched : world.Untouched) (notices : List Notice) :
    (Launch.noteAll world notices).Untouched := by
  induction notices generalizing world with
  | nil => exact untouched
  | cons notice rest ih => exact ih (untouched.note notice)

theorem opens {result : Option Listener} {sockets : Sockets} (untouched : world.Untouched)
    (opens : Sockets.Opens .metrics world.sockets result sockets) :
    Untouched { world with sockets } := by
  refine ⟨fun listener member => ?_, fun attempt member => ?_, untouched.joins⟩
  · rcases opens.listening listener member with old | new
    · exact untouched.quiet listener old
    · exact opens.role listener new
  · obtain ⟨more, made, roles⟩ := opens.attempts
    simp only [made] at member
    rcases List.mem_append.mp member with old | new
    · exact untouched.attempts attempt old
    · exact roles attempt new

end HostWorld.Untouched

def attained {α : Type} (value : α) : Option StartupError → Except StartupError α
  | none => .ok value
  | some error => .error error

namespace LaunchInputs

variable (inputs : LaunchInputs)

theorem readConfig_eq :
    Launch.readConfig inputs.environment inputs.configPath = .ok inputs.config ∨
      ∃ e, Launch.readConfig inputs.environment inputs.configPath = .error e ∧
        inputs.failure? .configuration = some (.config e) ∧ inputs.config = {} := by
  simp only [config, failure?]
  cases Launch.readConfig inputs.environment inputs.configPath with
  | error e => exact .inr ⟨e, rfl, rfl, rfl⟩
  | ok config => exact .inl rfl

theorem exists_metricsAddress (enabled : inputs.config.observability.metricsEnabled = true) :
    ∃ address, SocketAddress.parse inputs.config.observability.metricsAddress = some address := by
  have faultless : inputs.config.observability.faults = [] := by
    rcases inputs.readConfig_eq with read | ⟨e, -, -, default⟩
    · cases path : inputs.configPath with
      | none =>
          -- without a file the metrics are disabled
          rw [path, Launch.readConfig] at read
          rw [← Except.ok.inj read]
          rfl
      | some path =>
          rw [path, Launch.readConfig] at read
          exact Config.observability_faults (Config.faults_of_load read)
    · rw [default]
      rfl
  exact ObservabilityConfig.exists_address faultless enabled

theorem startMetrics_eq :
    Launch.startMetrics inputs.environment inputs.config.observability inputs.loggedWorld =
      (attained () (inputs.failure? .metrics), inputs.metricsWorld) := by
  refine Prod.ext ?_ rfl
  simp only [Launch.startMetrics, failure?]
  cases enabled : inputs.config.observability.metricsEnabled with
  | false => rfl
  | true =>
      obtain ⟨address, parsed⟩ := inputs.exists_metricsAddress enabled
      simp only [parsed, Bool.not_true, Bool.false_eq_true, if_false, if_true, Option.bind_some]
      cases inputs.loggedWorld.sockets.openAt inputs.environment.host.network .metrics
          address with
      | mk result sockets => cases result <;> rfl

theorem readSystem_eq :
    Launch.readSystem inputs.environment inputs.systemSource inputs.metricsWorld =
      (attained inputs.system (inputs.failure? .systemConfig), inputs.systemWorld) := by
  refine Prod.ext ?_ rfl
  simp only [Launch.readSystem, failure?, system]
  cases SystemConfig.load inputs.environment.files inputs.systemSource with
  | mk result notices =>
      cases result with
      | ok system => rfl
      | error e => cases e <;> rfl

theorem makeGuard_eq :
    Launch.makeGuard inputs.system inputs.systemWorld =
      (attained inputs.guard (inputs.failure? .guard), inputs.guardWorld) := by
  refine Prod.ext ?_ rfl
  simp only [Launch.makeGuard, failure?, guard]
  cases Guard.ofSystemConfig inputs.system with
  | mk result notices => cases result <;> rfl

section Worlds

theorem untouched_loggedWorld : inputs.loggedWorld.Untouched :=
  .note .empty _

theorem untouched_metricsWorld : inputs.metricsWorld.Untouched := by
  have logged := inputs.untouched_loggedWorld
  simp only [metricsWorld, Launch.startMetrics]
  split
  · exact logged
  · split
    · exact logged
    · next address parsed =>
        have opens := inputs.loggedWorld.sockets.opens_openAt inputs.environment.host.network
          .metrics address
        cases tried : inputs.loggedWorld.sockets.openAt inputs.environment.host.network .metrics
            address with
        | mk result sockets =>
            rw [tried] at opens
            cases result with
            | error cause => exact logged.opens opens
            | ok listener => exact (logged.opens opens).note _

theorem untouched_systemWorld : inputs.systemWorld.Untouched := by
  have metrics := inputs.untouched_metricsWorld
  simp only [systemWorld, Launch.readSystem]
  split <;> exact metrics.noteAll _

theorem untouched_guardWorld : inputs.guardWorld.Untouched := by
  have system := inputs.untouched_systemWorld
  simp only [guardWorld, Launch.makeGuard]
  split <;> exact system.noteAll _

end Worlds

end LaunchInputs

end RpcTransport
