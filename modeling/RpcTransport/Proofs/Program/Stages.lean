import RpcTransport.Listener.LocalNetwork
import RpcTransport.Program.Launch
import RpcTransport.Proofs.Host.Operations

/-! # The stages of a launch

What can fail at each stage of a launch, from the primitives: files, the check of a
configuration, the registry, and the network. Each stage is looked at in the world that the
stages before it leave when they get through.
-/

namespace RpcTransport

inductive Stage where
  | configuration
  | logging
  | metrics
  | systemConfig
  | guard
  | primary
  | bridge
  deriving Repr, DecidableEq

namespace Stage

/-- The stages before any listener of the host. -/
def preliminary : List Stage := [configuration, logging, metrics, systemConfig, guard]

def all : List Stage := preliminary ++ [primary, bridge]

end Stage

def StartupError.stage? : StartupError → Option Stage
  | .config _ => some .configuration
  | .logging => some .logging
  | .metrics _ => some .metrics
  | .metricsAddress _ => none
  | .systemConfig _ => some .systemConfig
  | .guard _ => some .guard
  | .host (.primaryBind _ _) => some .primary
  | .host (.listenerRejected _ _) => some .bridge
  | .host (.bridgeBind _ _) => some .bridge
  | .host (.invalidState _ _) => none
  | .host (.serve _ _) => none

def failureOf {ε α : Type} : Except ε α → Option ε
  | .ok _ => none
  | .error e => some e

def Network.bindFailure? (network : Network) :
    Except ListenerError Listener × Sockets → Option ListenerError
  | (.error source, _) => some source
  | (.ok listener, sockets) => (failureOf (sockets.readAddress network listener)).map .unbound

structure LaunchInputs where
  environment : LaunchEnvironment
  configPath : Option String
  systemPath : Option String

namespace LaunchInputs

variable (inputs : LaunchInputs)

def report : LaunchReport :=
  launch inputs.environment inputs.configPath inputs.systemPath

def config : Config :=
  (Launch.readConfig inputs.environment inputs.configPath).toOption.getD {}

def loggedWorld : HostWorld :=
  ({} : HostWorld).note (.starting inputs.config.host.serviceName version)

def metricsWorld : HostWorld :=
  (Launch.startMetrics inputs.environment inputs.config.observability inputs.loggedWorld).2

def systemSource : String :=
  Launch.systemPath inputs.environment inputs.systemPath inputs.config.system.path

def system : SystemConfig :=
  (SystemConfig.load inputs.environment.files inputs.systemSource).1.toOption.getD {}

def systemWorld : HostWorld :=
  (Launch.readSystem inputs.environment inputs.systemSource inputs.metricsWorld).2

/-- The guard of the system configuration, or one that allows nothing. -/
def guard : Guard :=
  (Guard.ofSystemConfig inputs.system).1.toOption.getD {}

def guardWorld : HostWorld :=
  (Launch.makeGuard inputs.system inputs.systemWorld).2

def servingWorld : HostWorld :=
  match Host.bind inputs.config.host inputs.guard inputs.environment.host inputs.guardWorld with
  | (.ok host, world) => host.servingWorld world
  | (.error _, world) => world

def failure? : Stage → Option StartupError
  | .configuration =>
    (failureOf (Launch.readConfig inputs.environment inputs.configPath)).map .config
  | .logging => if inputs.environment.loggerTaken then some .logging else none
  | .metrics =>
    let metrics := inputs.config.observability
    if metrics.metricsEnabled then
      (SocketAddress.parse metrics.metricsAddress).bind fun address =>
        (failureOf (inputs.loggedWorld.sockets.openAt inputs.environment.host.network .metrics
          address).1).map .metrics
    else none
  | .systemConfig =>
    match failureOf (SystemConfig.load inputs.environment.files inputs.systemSource).1 with
    | some (.missing _) => none
    | failure => failure.map .systemConfig
  | .guard => (failureOf (Guard.ofSystemConfig inputs.system).1).map .guard
  | .primary =>
    let network := inputs.environment.host.network
    let address := inputs.config.host.primaryAddress
    (network.bindFailure? (inputs.guardWorld.sockets.bind network address)).map fun source =>
      .host (.primaryBind address source)
  | .bridge =>
    let network := inputs.environment.host.network
    let address := inputs.config.host.bridgeAddress
    if inputs.config.host.bridgeEnabled then
      (network.bindFailure? (inputs.servingWorld.sockets.guardedBind network inputs.guard
        address)).map fun source => .host (.ofBridge address source)
    else none

def firstFailure? : Option StartupError :=
  Stage.all.findSome? inputs.failure?

def servers : List Server :=
  if inputs.config.host.bridgeEnabled then [.primary, .bridge] else [.primary]

/-- The error of the first server that does not end cleanly when it is told to. -/
def serverFailure? : Option StartupError :=
  inputs.servers.findSome? fun server =>
    (inputs.environment.host.ending server true).failure?.map (.host ∘ .serve server)

theorem stage?_of_failure {stage : Stage} {error : StartupError}
    (failed : inputs.failure? stage = some error) : error.stage? = some stage := by
  cases stage with
  | configuration =>
      obtain ⟨e, -, rfl⟩ := Option.map_eq_some_iff.mp failed
      rfl
  | logging =>
      simp only [failure?] at failed
      split at failed
      · cases failed
        rfl
      · cases failed
  | metrics =>
      simp only [failure?] at failed
      split at failed
      · obtain ⟨address, -, refused⟩ := Option.bind_eq_some_iff.mp failed
        obtain ⟨cause, -, rfl⟩ := Option.map_eq_some_iff.mp refused
        rfl
      · cases failed
  | systemConfig =>
      simp only [failure?] at failed
      split at failed
      · cases failed
      · obtain ⟨e, -, rfl⟩ := Option.map_eq_some_iff.mp failed
        rfl
  | guard =>
      obtain ⟨e, -, rfl⟩ := Option.map_eq_some_iff.mp failed
      rfl
  | primary =>
      obtain ⟨source, -, rfl⟩ := Option.map_eq_some_iff.mp failed
      rfl
  | bridge =>
      simp only [failure?] at failed
      split at failed
      · obtain ⟨source, -, rfl⟩ := Option.map_eq_some_iff.mp failed
        cases source <;> rfl
      · cases failed

/-- A launch without any files on a machine with one interface and some addresses taken. -/
def bare (taken : List SocketAddress) : LaunchInputs where
  environment :=
    { host := ⟨(⟨taken, 40000, ["lo"]⟩ : LocalNetwork).network, fun _ _ => .clean⟩
      files := ⟨fun _ => .error .missing, fun _ => false⟩
      directory := none
      loggerTaken := false }
  configPath := none
  systemPath := none

example : (bare []).firstFailure? = none := rfl

example : (bare [.v4 ⟨127, 0, 0, 1⟩ 50051]).firstFailure? =
    some (.host (.primaryBind "0.0.0.0:50051"
      (.unbound "Address already in use (os error 98)"))) := rfl

end LaunchInputs

end RpcTransport
