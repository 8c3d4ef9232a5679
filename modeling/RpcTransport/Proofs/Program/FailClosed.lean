import RpcTransport.Proofs.Guard.Enforced
import RpcTransport.Proofs.Listener.JudgedPort
import RpcTransport.Proofs.Program.Order

/-! # A bridge serves only what is registered

Whether a launch serves its bridge hangs on one file, the system configuration. If there is no
such file, or no registry in it, the guard allows nothing and refuses the bridge; if the file
cannot be read or made sense of, the launch ends before any server has a socket.
-/

namespace RpcTransport

open Json (Value)

namespace Sockets

theorem bindAccepted_of_refused (sockets : Sockets) (network : Network) {guard : Guard}
    {candidates : List SocketAddress} {e : GuardError} (nonempty : candidates ≠ [])
    (refused : ∀ candidate ∈ candidates, guard.refusal? candidate = some e)
    (failure : ListenerError) :
    (sockets.bindAccepted network guard failure candidates).1 = .error (.rejected e) := by
  have failed : ∀ (sockets : Sockets), ∀ candidate ∈ candidates,
      sockets.candidateFailure? network guard candidate = some (.rejected e) := by
    intro sockets candidate member
    rw [candidateFailure?, refused candidate member]
  have none : sockets.NoneBound network guard candidates := by
    rintro before candidate behind rfl
    rw [failed _ candidate (by simp), Option.isSome_some]
  obtain ⟨others, last, rfl⟩ : ∃ others last, candidates = others ++ [last] :=
    ⟨_, _, (List.dropLast_concat_getLast nonempty).symm⟩
  obtain ⟨reason, lastFailed, ended⟩ := none.bindAccepted_eq failure
  rw [failed _ last (by simp)] at lastFailed
  cases lastFailed
  rw [ended]

end Sockets

theorem Stage.mem_all (stage : Stage) : stage ∈ Stage.all := by
  cases stage <;> decide

namespace LaunchInputs

variable (inputs : LaunchInputs)

def systemText : Except FileError String :=
  inputs.environment.files.text inputs.systemSource

/-- The bridge has served: its task was waited for. -/
def BridgeServed : Prop :=
  ∃ triggered, ⟨.bridge, triggered⟩ ∈ inputs.report.world.joins

/-- The file has a registry with an entry for the port that the bridge asks for. -/
def Sanctioned : Prop :=
  ∃ text root port, inputs.systemText = .ok text ∧ Json.parse text = some root ∧
    bindPort? inputs.config.host.bridgeAddress = some port ∧
      Registered root (toString port.toNat) ∧ port ≠ 80

/-- There is no file, or no registry in it. -/
inductive Unregistered : Prop where
  | missing (absent : inputs.systemText = .error .missing)
  | uncategorized (text : String) (root : Value) (fields : List (String × Value))
      (read : inputs.systemText = .ok text) (parsed : Json.parse text = some root)
      (object : root.fields? = some fields) (absent : root.get? "microservices" = none)

inductive Unusable : StartupError → Prop where
  | unreadable (cause : FileError) (unread : inputs.systemText = .error cause)
      (other : cause ≠ .missing) :
      Unusable (.systemConfig (.unreadable inputs.systemSource cause))
  | malformed (text : String) (read : inputs.systemText = .ok text)
      (unparsed : Json.parse text = none) : Unusable (.systemConfig .malformed)
  | notObject (text : String) (root : Value) (read : inputs.systemText = .ok text)
      (parsed : Json.parse text = some root) (other : root.fields? = none) :
      Unusable (.systemConfig .notObject)
  | registry (text : String) (root registry : Value) (e : GuardError)
      (read : inputs.systemText = .ok text) (parsed : Json.parse text = some root)
      (present : root.get? "microservices" = some registry)
      (invalid : (AllowedPorts.ofRegistry registry).1 = .error e) : Unusable (.guard e)

def Usable : Prop :=
  ∃ text root registry ports, inputs.systemText = .ok text ∧ Json.parse text = some root ∧
    root.get? "microservices" = some registry ∧
      (AllowedPorts.ofRegistry registry).1 = .ok ports

theorem load_eq : (SystemConfig.load inputs.environment.files inputs.systemSource).1 =
    match inputs.systemText with
    | .error .missing => .error (.missing inputs.systemSource)
    | .error cause => .error (.unreadable inputs.systemSource cause)
    | .ok text => SystemConfig.parse text := by
  simp only [SystemConfig.load, systemText]
  cases inputs.environment.files.text inputs.systemSource with
  | error cause => cases cause <;> rfl
  | ok text =>
      simp only
      cases SystemConfig.parse text <;> rfl

variable {inputs}

theorem system_of_missing (absent : inputs.systemText = .error .missing) :
    inputs.failure? .systemConfig = none ∧ inputs.system = {} := by
  have loaded := inputs.load_eq
  rw [absent] at loaded
  simp only [failure?, system, loaded]
  exact ⟨rfl, rfl⟩

theorem system_of_object {text : String} {root : Value} {fields : List (String × Value)}
    (read : inputs.systemText = .ok text) (parsed : Json.parse text = some root)
    (object : root.fields? = some fields) :
    inputs.failure? .systemConfig = none ∧ SystemConfig.ofValue root = .ok inputs.system := by
  have loaded := inputs.load_eq
  simp only [read, SystemConfig.parse, parsed, SystemConfig.ofValue, object] at loaded
  simp only [failure?, system, loaded, SystemConfig.ofValue, object]
  exact ⟨rfl, rfl⟩

theorem guard_of_uncategorized (absent : inputs.system.get? .microservices = none) :
    inputs.failure? .guard = none ∧ inputs.guard = {} := by
  have built : Guard.ofSystemConfig inputs.system =
      (.ok {}, [.registryMissing Category.microservices.name, .guardInitialized []]) := by
    simp only [Guard.ofSystemConfig, AllowedPorts.ofSystemConfig, absent]
    rfl
  simp only [failure?, guard, built]
  exact ⟨rfl, rfl⟩

/-- Without a registry, all stages before the listeners get through, and the guard allows
    nothing. -/
theorem Unregistered.guard_eq (unregistered : inputs.Unregistered) :
    inputs.failure? .systemConfig = none ∧ inputs.failure? .guard = none ∧ inputs.guard = {} := by
  cases unregistered with
  | missing absent =>
      obtain ⟨passed, empty⟩ := system_of_missing absent
      exact ⟨passed, guard_of_uncategorized (by rw [empty]; rfl)⟩
  | uncategorized text root fields read parsed object absent =>
      obtain ⟨passed, config⟩ := system_of_object read parsed object
      refine ⟨passed, guard_of_uncategorized ?_⟩
      exact (SystemConfig.get?_ofName config "microservices").trans absent

theorem Unusable.failure {error : StartupError} (unusable : inputs.Unusable error) :
    inputs.failure? .systemConfig = some error ∨
      inputs.failure? .systemConfig = none ∧ inputs.failure? .guard = some error := by
  have loaded := inputs.load_eq
  cases unusable with
  | unreadable cause unread other =>
      rw [unread] at loaded
      refine .inl ?_
      cases cause <;> first | exact absurd rfl other | simp only [failure?, loaded]; rfl
  | malformed text read unparsed =>
      simp only [read, SystemConfig.parse, unparsed] at loaded
      refine .inl ?_
      simp only [failure?, loaded]
      rfl
  | notObject text root read parsed other =>
      simp only [read, SystemConfig.parse, parsed, SystemConfig.ofValue, other] at loaded
      refine .inl ?_
      simp only [failure?, loaded]
      rfl
  | registry text root registry e read parsed present invalid =>
      obtain ⟨fields, object, -⟩ := Value.get?_eq_some_iff.mp present
      obtain ⟨passed, config⟩ := system_of_object read parsed object
      have category : inputs.system.get? .microservices = some registry :=
        (SystemConfig.get?_ofName config "microservices").trans present
      refine .inr ⟨passed, ?_⟩
      simp only [failure?, Guard.ofSystemConfig, AllowedPorts.ofSystemConfig, category]
      cases collected : AllowedPorts.ofRegistry registry with
      | mk result notices =>
          rw [collected] at invalid
          cases invalid
          rfl

theorem collected_of_passed (passed : inputs.failure? .guard = none) :
    (AllowedPorts.ofSystemConfig inputs.system).1 = .ok inputs.guard.allowed := by
  cases built : Guard.ofSystemConfig inputs.system with
  | mk result notices =>
      cases result with
      | error e =>
          simp only [failure?, built] at passed
          cases passed
      | ok guard =>
          have same : inputs.guard = guard := by
            simp only [LaunchInputs.guard, built]
            rfl
          rw [same]
          exact Guard.collected_of_ofSystemConfig built

theorem registered_of_allowed (systemConfig : inputs.failure? .systemConfig = none)
    (guard : inputs.failure? .guard = none) {port : String}
    (allowed : port ∈ inputs.guard.allowed.toList) :
    ∃ text root, inputs.systemText = .ok text ∧ Json.parse text = some root ∧
      Registered root port := by
  have loaded := inputs.load_eq
  cases read : inputs.systemText with
  | error cause =>
      by_cases absent : cause = .missing
      · rw [absent] at read
        rw [(Unregistered.missing read).guard_eq.2.2] at allowed
        cases allowed
      · have failed := (Unusable.unreadable cause read absent).failure
        simp [systemConfig, guard] at failed
  | ok text =>
      cases parsed : Json.parse text with
      | none =>
          have failed := (Unusable.malformed text read parsed).failure
          simp [systemConfig, guard] at failed
      | some root =>
          cases object : root.fields? with
          | none =>
              have failed := (Unusable.notObject text root read parsed object).failure
              simp [systemConfig, guard] at failed
          | some fields =>
              obtain ⟨-, config⟩ := system_of_object read parsed object
              have collected := collected_of_passed guard
              exact ⟨text, root, rfl, parsed,
                (AllowedPorts.mem_ofSystemConfig config collected port).mp allowed⟩

/-- The bridge serves just if it is enabled and no stage fails. -/
theorem bridgeServed_iff : inputs.BridgeServed ↔
    inputs.config.host.bridgeEnabled = true ∧ inputs.firstFailure? = none := by
  have joins := inputs.settled_report.joins
  rw [← firstFailure?] at joins
  rw [BridgeServed, joins]
  cases first : inputs.firstFailure? with
  | some error =>
      simp only [LaunchInputs.joins]
      split <;> simp
  | none =>
      simp only [LaunchInputs.joins, servers]
      cases inputs.config.host.bridgeEnabled <;> simp

theorem sanctioned_of_bridge (served : inputs.BridgeServed) : inputs.Sanctioned := by
  obtain ⟨enabled, first⟩ := bridgeServed_iff.mp served
  have passed : ∀ stage, inputs.failure? stage = none :=
    fun stage => List.findSome?_eq_none_iff.mp first stage stage.mem_all
  have bridge := passed .bridge
  simp only [failure?, enabled, if_true] at bridge
  cases opened : inputs.servingWorld.sockets.guardedBind inputs.environment.host.network
      inputs.guard inputs.config.host.bridgeAddress with
  | mk result after =>
      cases result with
      | error source => simp [opened, Network.bindFailure?] at bridge
      | ok listener =>
          obtain ⟨candidates, resolved, candidate, member, permits, -⟩ :=
            Sockets.guardedBind_ok opened
          obtain ⟨allowed, unreserved⟩ := Guard.permits_iff_allowed.mp permits
          obtain ⟨text, root, read, parsed, registered⟩ :=
            registered_of_allowed (passed .systemConfig) (passed .guard) allowed
          exact ⟨text, root, candidate.port, read, parsed,
            Network.bindPort?_of_resolve resolved member, registered, unreserved⟩

theorem failure_bridge_of_unregistered (unregistered : inputs.Unregistered)
    (enabled : inputs.config.host.bridgeEnabled = true) {first : SocketAddress}
    {rest : List SocketAddress}
    (resolved : inputs.environment.host.network.resolve inputs.config.host.bridgeAddress =
      .ok (first :: rest)) :
    inputs.failure? .bridge = some (.host (.listenerRejected inputs.config.host.bridgeAddress
      (.unsafePort (toString first.port.toNat)))) := by
  have refused : ∀ candidate ∈ first :: rest, inputs.guard.refusal? candidate =
      some (.unsafePort (toString first.port.toNat)) := by
    intro candidate member
    have unpermitted : ¬ inputs.guard.Permits candidate.port := by
      intro permits
      rw [unregistered.guard_eq.2.2] at permits
      cases (Guard.permits_iff_allowed.mp permits).1
    rw [Guard.refusal?_eq, if_neg unpermitted, Network.port_eq_of_resolve resolved member]
  have failed := inputs.servingWorld.sockets.bindAccepted_of_refused
    inputs.environment.host.network (List.cons_ne_nil first rest) refused
    (.unresolved inputs.config.host.bridgeAddress "no addresses resolved")
  simp only [failure?, enabled, if_true, Sockets.guardedBind, resolved]
  cases bound : inputs.servingWorld.sockets.bindAccepted inputs.environment.host.network
      inputs.guard (.unresolved inputs.config.host.bridgeAddress "no addresses resolved")
      (first :: rest) with
  | mk result after =>
      rw [bound] at failed
      cases failed
      rfl

/-- Files that are alike where a launch looks lead to the same report. -/
theorem launch_congr (inputs : LaunchInputs) {files : Files}
    (present : files.isPresent = inputs.environment.files.isPresent)
    (alike : ∀ path, inputs.configPath = some path ∨ path = inputs.systemSource →
      files.bytes path = inputs.environment.files.bytes path) :
    launch { inputs.environment with files } inputs.configPath inputs.systemPath =
      inputs.report := by
  have text : ∀ path, inputs.configPath = some path ∨ path = inputs.systemSource →
      files.text path = inputs.environment.files.text path := by
    intro path looked
    rw [Files.text, Files.text, alike path looked]
  have config : Launch.readConfig { inputs.environment with files } inputs.configPath =
      Launch.readConfig inputs.environment inputs.configPath := by
    cases given : inputs.configPath with
    | none => rfl
    | some path => simp only [Launch.readConfig, Config.load, text path (.inl given)]
  -- the place is found by asking which paths there are, without reading any file
  have source : Launch.systemPath { inputs.environment with files } inputs.systemPath
      inputs.config.system.path = inputs.systemSource := by
    simp only [systemSource, Launch.systemPath, SystemConfig.locate, present]
  have system : ∀ world, Launch.readSystem { inputs.environment with files }
      inputs.systemSource world =
        Launch.readSystem inputs.environment inputs.systemSource world := by
    intro world
    simp only [Launch.readSystem, SystemConfig.load, text _ (.inr rfl)]
  simp only [report, launch, config]
  rcases inputs.readConfig_eq with read | ⟨e, unread, -, -⟩
  · have logged : ∀ world, Launch.runLogged { inputs.environment with files } inputs.config
        inputs.systemPath world =
          Launch.runLogged inputs.environment inputs.config inputs.systemPath world := by
      intro world
      simp only [Launch.runLogged, source, system]
      rfl
    simp only [read, logged]
  · simp only [unread]

structure FailsClosed (inputs : LaunchInputs) : Prop where
  /-- A bridge that serves is registered in the file for the port that it asks for. -/
  served : inputs.BridgeServed → inputs.Sanctioned
  /-- The file that is given goes first, ... -/
  given : ∀ path, inputs.systemPath = some path → inputs.systemSource = path
  /-- ... then the one that is configured, ... -/
  configured : ∀ path, inputs.systemPath = none → inputs.config.system.path = some path →
    inputs.systemSource = path
  /-- ... then the one in the directory of the environment, if that exists, ... -/
  directory : ∀ directory, inputs.systemPath = none → inputs.config.system.path = none →
    inputs.environment.directory = some directory → directory ≠ "" →
      inputs.environment.files.isPresent directory = true →
        inputs.systemSource = SystemConfig.join directory "sys_conf.json"
  /-- ... and the default one last. -/
  otherwise : inputs.systemPath = none → inputs.config.system.path = none →
    (∀ directory, inputs.environment.directory = some directory →
      directory = "" ∨ inputs.environment.files.isPresent directory = false) →
        inputs.systemSource = "/etc/foundation/conf/sys_conf.json"
  /-- Of all other files, only that of the configuration has a part in the launch. -/
  alone : ∀ files : Files, files.isPresent = inputs.environment.files.isPresent →
    (∀ path, inputs.configPath = some path ∨ path = inputs.systemSource →
      files.bytes path = inputs.environment.files.bytes path) →
        launch { inputs.environment with files } inputs.configPath inputs.systemPath =
          inputs.report
  /-- The file is missing or without a registry, or it cannot be made sense of, or its registry
      can. -/
  sources : inputs.Unregistered ∨ (∃ error, inputs.Unusable error) ∨ inputs.Usable
  /-- Without a registry a bridge is rejected, whatever it asks for. -/
  rejected : inputs.Unregistered → inputs.config.host.bridgeEnabled = true →
    (∀ stage ∈ [Stage.configuration, .logging, .metrics, .primary], inputs.failure? stage = none) →
      ∀ first rest, inputs.environment.host.network.resolve inputs.config.host.bridgeAddress =
        .ok (first :: rest) →
          inputs.report.result = .error (.host (.listenerRejected inputs.config.host.bridgeAddress
            (.unsafePort (toString first.port.toNat))))
  /-- If the file cannot be made sense of, the launch fails before any server has a socket, with
      the error of the file unless an earlier stage has failed. -/
  fatal : ∀ error, inputs.Unusable error →
    (∃ other, inputs.report.result = .error other) ∧
      (∀ attempt ∈ inputs.report.world.sockets.attempts, attempt.1 = .metrics) ∧
        ((∀ stage ∈ [Stage.configuration, .logging, .metrics], inputs.failure? stage = none) →
          inputs.report.result = .error error)

theorem exists_error_of_failure {stage : Stage} {error : StartupError}
    (failed : inputs.failure? stage = some error) :
    ∃ other, inputs.report.result = .error other := by
  cases first : inputs.firstFailure? with
  | some other => exact ⟨other, inputs.orderly.failed other first⟩
  | none =>
      have passed := List.findSome?_eq_none_iff.mp first stage stage.mem_all
      rw [failed] at passed
      cases passed

theorem sources_cases (inputs : LaunchInputs) :
    inputs.Unregistered ∨ (∃ error, inputs.Unusable error) ∨ inputs.Usable := by
  cases read : inputs.systemText with
  | error cause =>
      by_cases absent : cause = .missing
      · exact .inl (.missing (absent ▸ read))
      · exact .inr (.inl ⟨_, .unreadable cause read absent⟩)
  | ok text =>
      cases parsed : Json.parse text with
      | none => exact .inr (.inl ⟨_, .malformed text read parsed⟩)
      | some root =>
          cases object : root.fields? with
          | none => exact .inr (.inl ⟨_, .notObject text root read parsed object⟩)
          | some fields =>
              cases present : root.get? "microservices" with
              | none => exact .inl (.uncategorized text root fields read parsed object present)
              | some registry =>
                  cases collected : (AllowedPorts.ofRegistry registry).1 with
                  | error e =>
                      exact .inr (.inl ⟨_, .registry text root registry e read parsed present
                        collected⟩)
                  | ok ports =>
                      exact .inr (.inr ⟨text, root, registry, ports, read, parsed, present,
                        collected⟩)

theorem failsClosed (inputs : LaunchInputs) : inputs.FailsClosed := by
  have orderly := inputs.orderly
  constructor
  case served => exact sanctioned_of_bridge
  case given =>
    intro path given
    simp [systemSource, Launch.systemPath, SystemConfig.locate, given]
  case configured =>
    intro path ungiven configured
    simp [systemSource, Launch.systemPath, SystemConfig.locate, ungiven, configured]
  case directory =>
    intro directory ungiven unconfigured named nonempty present
    simp [systemSource, Launch.systemPath, SystemConfig.locate, ungiven, unconfigured, named,
      nonempty, present, SystemConfig.fileName]
  case otherwise =>
    intro ungiven unconfigured absent
    simp only [systemSource, Launch.systemPath, ungiven, unconfigured, SystemConfig.locate]
    cases named : inputs.environment.directory with
    | none => rfl
    | some directory =>
        have unusable : ¬ (directory ≠ "" ∧
            inputs.environment.files.isPresent directory = true) := by
          rintro ⟨nonempty, present⟩
          rcases absent directory named with empty | missing
          · exact nonempty empty
          · rw [missing] at present
            cases present
        exact if_neg unusable
  case alone => exact fun files => inputs.launch_congr
  case sources => exact inputs.sources_cases
  case rejected =>
    intro unregistered enabled passed first rest resolved
    obtain ⟨systemConfig, guard, -⟩ := unregistered.guard_eq
    refine orderly.failed _ ?_
    simp [firstFailure?, Stage.all, Stage.preliminary, systemConfig, guard,
      passed .configuration, passed .logging, passed .metrics, passed .primary,
      failure_bridge_of_unregistered unregistered enabled resolved]
  case fatal =>
    intro error unusable
    -- the file is of no use to its own stage, or else to that of the guard
    rcases unusable.failure with failed | ⟨passed, failed⟩
    · refine ⟨exists_error_of_failure failed, ?_, fun passed => orderly.failed _ ?_⟩
      · exact orderly.unopened .systemConfig (by decide) (by simp [failed])
      · simp [firstFailure?, Stage.all, Stage.preliminary, passed .configuration,
          passed .logging, passed .metrics, failed]
    · refine ⟨exists_error_of_failure failed, ?_, fun earlier => orderly.failed _ ?_⟩
      · exact orderly.unopened .guard (by decide) (by simp [failed])
      · simp [firstFailure?, Stage.all, Stage.preliminary, earlier .configuration,
          earlier .logging, earlier .metrics, passed, failed]

end LaunchInputs

end RpcTransport
