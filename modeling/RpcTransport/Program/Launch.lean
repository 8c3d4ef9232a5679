import RpcTransport.Config.Load
import RpcTransport.Guard.Registry
import RpcTransport.Host.Host
import RpcTransport.SystemConfig.Location

/-! # Launching a host

A launch goes through its stages in a fixed order: configuration, logging, metrics, system
configuration, guard, primary listener, bridge. The first that fails ends it with the error
of that stage; a primary server that already serves is stopped before. A launch that gets
through all of them serves until a signal to shut down arrives.
-/

namespace RpcTransport

def version : String := "0.1.0"

inductive StartupError where
  | config (source : ConfigError)
  | logging
  | metrics (cause : String)
  | metricsAddress (address : String)
  | systemConfig (source : SystemConfigError)
  | guard (source : GuardError)
  | host (source : HostError)
  deriving Repr, DecidableEq

def StartupError.message? : StartupError → Option String
  | .config source => source.message?.map ("configuration: " ++ ·)
  | .logging => some "logging: a global default trace dispatcher has already been set"
  | .metrics _ => none
  | .metricsAddress address => some s!"invalid metrics address {address}"
  | .systemConfig source => source.message?.map ("system configuration: " ++ ·)
  | .guard source => some s!"listener guard: {source.message}"
  | .host source => some s!"host: {source.message}"

/-- What is decided outside of a launch. -/
structure LaunchEnvironment where
  host : HostEnvironment
  files : Files
  directory : Option String
  loggerTaken : Bool

structure LaunchReport where
  result : Except StartupError Unit
  logging : Option ObservabilityConfig
  world : HostWorld

namespace Launch

def noteAll (world : HostWorld) (notices : List Notice) : HostWorld :=
  notices.foldl .note world

def readConfig (environment : LaunchEnvironment) : Option String → Except ConfigError Config
  | some path => Config.load environment.files path
  | none => .ok {}

def startMetrics (environment : LaunchEnvironment) (config : ObservabilityConfig)
    (world : HostWorld) : Except StartupError Unit × HostWorld :=
  if !config.metricsEnabled then (.ok (), world)
  else
    match SocketAddress.parse config.metricsAddress with
    | none => (.error (.metricsAddress config.metricsAddress), world)
    | some address =>
      match world.sockets.openAt environment.host.network .metrics address with
      | (.error cause, sockets) => (.error (.metrics cause), { world with sockets := sockets })
      | (.ok _, sockets) =>
        (.ok (), { world with sockets := sockets }.note (.metricsListening address.text))

/-- The system configuration at a path; an empty one if there is no such file. -/
def readSystem (environment : LaunchEnvironment) (path : String) (world : HostWorld) :
    Except StartupError SystemConfig × HostWorld :=
  match SystemConfig.load environment.files path with
  | (.ok system, notices) => (.ok system, noteAll world notices)
  | (.error (.missing path), notices) =>
    (.ok {}, noteAll world (notices ++ [.systemConfigMissing path]))
  | (.error e, notices) => (.error (.systemConfig e), noteAll world notices)

def makeGuard (system : SystemConfig) (world : HostWorld) :
    Except StartupError Guard × HostWorld :=
  match Guard.ofSystemConfig system with
  | (.ok guard, notices) => (.ok guard, noteAll world notices)
  | (.error e, notices) =>
    (.error (.guard e), noteAll world (notices ++ [.guardInvalid e.message]))

def abandon (environment : LaunchEnvironment) (host : Host) (world : HostWorld) : HostWorld :=
  match host.stop environment.host world with
  | (.ok (), host, world) => host.discard world
  | (.error e, host, world) => host.discard (world.note (.stopFailed e.message))

def serve (environment : LaunchEnvironment) (host : Host) (world : HostWorld) :
    Except StartupError Unit × HostWorld :=
  match host.stop environment.host (world.note .signalReceived) with
  | (.ok (), host, world) => (.ok (), host.discard (world.note .shutdownComplete))
  | (.error e, host, world) => (.error (.host e), host.discard world)

def runHost (environment : LaunchEnvironment) (config : HostConfig) (guard : Guard)
    (world : HostWorld) : Except StartupError Unit × HostWorld :=
  match Host.bind config guard environment.host world with
  | (.error e, world) => (.error (.host e), world)
  | (.ok host, world) =>
    match host.start environment.host world with
    | (.error e, host, world) => (.error (.host e), abandon environment host world)
    | (.ok (), host, world) => serve environment host world

/-- Where the system configuration is: the given path goes first, then the configured
    one. -/
def systemPath (environment : LaunchEnvironment) (given configured : Option String) : String :=
  SystemConfig.locate environment.files (given <|> configured) environment.directory

def runLogged (environment : LaunchEnvironment) (config : Config) (given : Option String)
    (world : HostWorld) : Except StartupError Unit × HostWorld :=
  match startMetrics environment config.observability world with
  | (.error e, world) => (.error e, world)
  | (.ok (), world) =>
    match readSystem environment (systemPath environment given config.system.path) world with
    | (.error e, world) => (.error e, world)
    | (.ok system, world) =>
      match makeGuard system world with
      | (.error e, world) => (.error e, world)
      | (.ok guard, world) => runHost environment config.host guard world

end Launch

def launch (environment : LaunchEnvironment) (configPath systemPath : Option String) :
    LaunchReport :=
  match Launch.readConfig environment configPath with
  | .error e => ⟨.error (.config e), none, {}⟩
  | .ok config =>
    if environment.loggerTaken then ⟨.error .logging, none, {}⟩
    else
      let world := ({} : HostWorld).note (.starting config.host.serviceName version)
      let (result, world) := Launch.runLogged environment config systemPath world
      ⟨result, some config.observability, world⟩

end RpcTransport
