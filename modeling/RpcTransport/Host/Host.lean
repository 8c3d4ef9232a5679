import RpcTransport.Config.Schema
import RpcTransport.Host.State
import RpcTransport.Shutdown.Watch

/-! # Hosts

A host serves one set of services over gRPC and, behind the guard, over gRPC-Web. Both
servers are stopped as a unit. A bridge that cannot be bound leaves the primary server
serving and reports the error.
-/

namespace RpcTransport

/-- A host. A task is shown as the listener that it serves and releases when it ends. -/
structure Host where
  config : HostConfig
  guard : Guard
  state : HostState := .constructed
  shutdown : Watch := {}
  /-- The primary listener until it is handed to its task. -/
  primaryListener : Option Listener
  primaryAddress : SocketAddress
  primaryTask : Option Listener := none
  bridgeAddress : Option SocketAddress := none
  bridgeTask : Option Listener := none
  deriving DecidableEq

/-- What is decided outside of a host. -/
structure HostEnvironment where
  network : Network
  /-- How the task of a server ends, given whether shutdown has been triggered. -/
  ending : Server → Bool → Ending

/-- A wait for the end of a task, and whether shutdown had been triggered before it. -/
structure Join where
  server : Server
  triggered : Bool
  deriving Repr, DecidableEq

structure HostWorld where
  sockets : Sockets := {}
  registrations : Nat := 0
  joins : List Join := []
  deriving DecidableEq

namespace HostWorld

def note (world : HostWorld) (notice : Notice) : HostWorld :=
  { world with sockets := world.sockets.note notice }

def close (world : HostWorld) : Option Listener → HostWorld
  | some listener => { world with sockets := world.sockets.close listener }
  | none => world

/-- Wait for the end of a task, which releases its listener. -/
def join (world : HostWorld) (environment : HostEnvironment) (server : Server)
    (triggered : Bool) : Option Listener → Except HostError Unit × HostWorld
  | none => (.ok (), world)
  | some listener =>
    let world := { world.close (some listener) with joins := world.joins ++ [⟨server, triggered⟩] }
    match (environment.ending server triggered).failure? with
    | none => (.ok (), world)
    | some message =>
      (.error (.serve server message), world.note (.serverTerminated server.name message))

end HostWorld

namespace Host

def serviceName (host : Host) : String := host.config.serviceName

def bind (config : HostConfig) (guard : Guard) (environment : HostEnvironment)
    (world : HostWorld) : Except HostError Host × HostWorld :=
  match world.sockets.bind environment.network config.primaryAddress with
  | (.error source, sockets) =>
    let world := { world with sockets := sockets }
    (.error (.primaryBind config.primaryAddress source),
      world.note (.primaryBindFailed config.serviceName config.primaryAddress source.message))
  | (.ok listener, sockets) =>
    match sockets.readAddress environment.network listener with
    | .error cause =>
      (.error (.primaryBind config.primaryAddress (.unbound cause)),
        { world with sockets := sockets.close listener })
    | .ok address =>
      (.ok { config, guard, primaryListener := some listener, primaryAddress := address },
        { world with sockets := sockets })

def startBridge (host : Host) (environment : HostEnvironment) (world : HostWorld) :
    Except HostError Unit × Host × HostWorld :=
  let address := host.config.bridgeAddress
  match world.sockets.guardedBind environment.network host.guard address with
  | (.error source, sockets) =>
    let world := { world with sockets := sockets }
    (.error (.ofBridge address source), host,
      world.note (.bridgeNotStarted host.serviceName address source.message))
  | (.ok listener, sockets) =>
    match sockets.readAddress environment.network listener with
    | .error cause =>
      (.error (.bridgeBind address (.unbound cause)), host,
        { world with sockets := sockets.close listener })
    | .ok bound =>
      (.ok (), { host with bridgeAddress := some bound, bridgeTask := some listener },
        { world with sockets := sockets }.note (.grpcWebHosted host.serviceName bound.text))

/-- Register the services and serve. A start takes the primary listener, whatever comes of
    it. -/
def start (host : Host) (environment : HostEnvironment) (world : HostWorld) :
    Except HostError Unit × Host × HostWorld :=
  match host.state, host.primaryListener with
  | .constructed, some listener =>
    let serving :=
      { host with state := .serving, primaryListener := none, primaryTask := some listener }
    let world := { world with registrations := world.registrations + 1 }
    let world := world.note (.grpcHosted host.serviceName host.primaryAddress.text)
    if host.config.bridgeEnabled then serving.startBridge environment world
    else (.ok (), serving, world)
  | state, taken =>
    (.error (.invalidState .start state), { host with primaryListener := none },
      world.close taken)

def firstFailure (first second : Except HostError Unit) : Except HostError Unit :=
  match first with
  | .error e => .error e
  | .ok () => second

/-- Trigger shutdown and wait for both servers, also if the first did not end cleanly. -/
def stop (host : Host) (environment : HostEnvironment) (world : HostWorld) :
    Except HostError Unit × Host × HostWorld :=
  if host.state ≠ .serving then (.error (.invalidState .stop host.state), host, world)
  else
    let shutdown := host.shutdown.replace true
    let (primary, world) := world.join environment .primary shutdown.flag host.primaryTask
    let (bridge, world) := world.join environment .bridge shutdown.flag host.bridgeTask
    (firstFailure primary bridge,
      { host with
        state := .stopped, shutdown, primaryTask := none, bridgeAddress := none,
        bridgeTask := none },
      world.note (.tornDown host.serviceName))

/-- Let go of a host. Its listener closes, and tasks that still serve are told to end. -/
def discard (host : Host) (world : HostWorld) : HostWorld :=
  ((world.close host.primaryListener).close host.primaryTask).close host.bridgeTask

end Host

end RpcTransport
