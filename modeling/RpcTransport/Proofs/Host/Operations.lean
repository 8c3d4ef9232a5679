import RpcTransport.Host.Host

/-! # The ways of a bind, a start and a stop

A bind gives a host that holds its primary listener, or keeps none open. A start that takes
place hands the primary listener to its task, and only then sees to the bridge, which the
guard may refuse, which may not be bound, or whose address may be lost. A stop that takes
place waits for both tasks. What is out of order is refused. Laws about operations are read
off these ways.
-/

namespace RpcTransport

abbrev HostOutcome := Except HostError Unit × Host × HostWorld

namespace HostWorld

def joinResult (environment : HostEnvironment) (server : Server) (triggered : Bool) :
    Option Listener → Except HostError Unit
  | none => .ok ()
  | some _ =>
    match (environment.ending server triggered).failure? with
    | none => .ok ()
    | some message => .error (.serve server message)

def joined (world : HostWorld) (environment : HostEnvironment) (server : Server)
    (triggered : Bool) (task : Option Listener) : HostWorld :=
  (world.join environment server triggered task).2

section Joined

variable (world : HostWorld) (environment : HostEnvironment) (server : Server)
  (triggered : Bool) (task : Option Listener)

theorem join_eq :
    world.join environment server triggered task =
      (joinResult environment server triggered task,
        world.joined environment server triggered task) := by
  refine Prod.ext ?_ rfl
  cases task with
  | none => rfl
  | some listener =>
      simp only [join, joinResult]
      cases (environment.ending server triggered).failure? <;> rfl

@[simp] theorem registrations_joined :
    (world.joined environment server triggered task).registrations = world.registrations := by
  cases task with
  | none => rfl
  | some listener =>
      simp only [joined, join]
      cases (environment.ending server triggered).failure? <;> rfl

@[simp] theorem joins_joined :
    (world.joined environment server triggered task).joins =
      world.joins ++ task.toList.map fun _ => ⟨server, triggered⟩ := by
  cases task with
  | none => simp [joined, join]
  | some listener =>
      simp only [joined, join]
      cases (environment.ending server triggered).failure? <;> rfl

@[simp] theorem listening_joined :
    (world.joined environment server triggered task).sockets.listening =
      (world.close task).sockets.listening := by
  cases task with
  | none => rfl
  | some listener =>
      simp only [joined, join]
      cases (environment.ending server triggered).failure? <;> rfl

@[simp] theorem registrations_close : (world.close task).registrations = world.registrations := by
  cases task <;> rfl

end Joined

end HostWorld

namespace Host

def bound (config : HostConfig) (guard : Guard) (listener : Listener) : Host :=
  { config, guard, primaryListener := some listener, primaryAddress := listener.localAddress }

def serving (host : Host) (listener : Listener) : Host :=
  { host with state := .serving, primaryListener := none, primaryTask := some listener }

def bridged (host : Host) (listener : Listener) : Host :=
  { host with bridgeAddress := some listener.localAddress, bridgeTask := some listener }

def servingWorld (host : Host) (world : HostWorld) : HostWorld :=
  { world with registrations := world.registrations + 1 }.note
    (.grpcHosted host.serviceName host.primaryAddress.text)

def torndown (host : Host) : Host :=
  { host with
    state := .stopped, shutdown := host.shutdown.replace true, primaryTask := none,
    bridgeAddress := none, bridgeTask := none }

def stopResult (host : Host) (environment : HostEnvironment) : Except HostError Unit :=
  firstFailure (HostWorld.joinResult environment .primary true host.primaryTask)
    (HostWorld.joinResult environment .bridge true host.bridgeTask)

def endedWorld (host : Host) (environment : HostEnvironment) (world : HostWorld) : HostWorld :=
  ((world.joined environment .primary true host.primaryTask).joined environment .bridge true
    host.bridgeTask).note (.tornDown host.serviceName)

@[simp] theorem joins_endedWorld (host : Host) (environment : HostEnvironment)
    (world : HostWorld) : (host.endedWorld environment world).joins =
      world.joins ++ (host.primaryTask.toList.map fun _ => ⟨.primary, true⟩) ++
        host.bridgeTask.toList.map fun _ => ⟨.bridge, true⟩ := by
  simp [endedWorld, HostWorld.note]

inductive BindPath (config : HostConfig) (guard : Guard) (environment : HostEnvironment)
    (world : HostWorld) : Except HostError Host × HostWorld → Prop where
  | unbound (source : ListenerError) (sockets : Sockets)
      (refused : world.sockets.bind environment.network config.primaryAddress =
        (.error source, sockets)) :
      BindPath config guard environment world
        (.error (.primaryBind config.primaryAddress source),
          { world with sockets }.note
            (.primaryBindFailed config.serviceName config.primaryAddress source.message))
  | unread (listener : Listener) (sockets : Sockets) (cause : String)
      (opened : world.sockets.bind environment.network config.primaryAddress =
        (.ok listener, sockets))
      (lost : sockets.readAddress environment.network listener = .error cause) :
      BindPath config guard environment world
        (.error (.primaryBind config.primaryAddress (.unbound cause)),
          { world with sockets := sockets.close listener })
  | bound (listener : Listener) (sockets : Sockets)
      (opened : world.sockets.bind environment.network config.primaryAddress =
        (.ok listener, sockets))
      (read : sockets.readAddress environment.network listener = .ok listener.localAddress) :
      BindPath config guard environment world
        (.ok (bound config guard listener), { world with sockets })

theorem bindPath (config : HostConfig) (guard : Guard) (environment : HostEnvironment)
    (world : HostWorld) :
    BindPath config guard environment world (bind config guard environment world) := by
  simp only [bind]
  cases bound : world.sockets.bind environment.network config.primaryAddress with
  | mk result sockets =>
      cases result with
      | error source => exact .unbound source sockets bound
      | ok listener =>
          cases read : sockets.readAddress environment.network listener with
          | error cause => simpa only [read] using .unread listener sockets cause bound read
          | ok address =>
              obtain rfl := Sockets.eq_of_readAddress read
              simpa only [read] using .bound listener sockets bound read

inductive BridgePath (host : Host) (environment : HostEnvironment) (world : HostWorld) :
    HostOutcome → Prop where
  | unbound (source : ListenerError) (sockets : Sockets)
      (refused : world.sockets.guardedBind environment.network host.guard
        host.config.bridgeAddress = (.error source, sockets)) :
      BridgePath host environment world
        (.error (.ofBridge host.config.bridgeAddress source), host,
          { world with sockets }.note
            (.bridgeNotStarted host.serviceName host.config.bridgeAddress source.message))
  | unread (listener : Listener) (sockets : Sockets) (cause : String)
      (opened : world.sockets.guardedBind environment.network host.guard
        host.config.bridgeAddress = (.ok listener, sockets))
      (lost : sockets.readAddress environment.network listener = .error cause) :
      BridgePath host environment world
        (.error (.bridgeBind host.config.bridgeAddress (.unbound cause)), host,
          { world with sockets := sockets.close listener })
  | bridged (listener : Listener) (sockets : Sockets)
      (opened : world.sockets.guardedBind environment.network host.guard
        host.config.bridgeAddress = (.ok listener, sockets))
      (read : sockets.readAddress environment.network listener = .ok listener.localAddress) :
      BridgePath host environment world
        (.ok (), host.bridged listener,
          { world with sockets }.note
            (.grpcWebHosted host.serviceName listener.localAddress.text))

theorem bridgePath (host : Host) (environment : HostEnvironment) (world : HostWorld) :
    BridgePath host environment world (host.startBridge environment world) := by
  simp only [startBridge]
  cases bound : world.sockets.guardedBind environment.network host.guard
      host.config.bridgeAddress with
  | mk result sockets =>
      cases result with
      | error source => exact .unbound source sockets bound
      | ok listener =>
          cases read : sockets.readAddress environment.network listener with
          | error cause => simpa only [read] using .unread listener sockets cause bound read
          | ok address =>
              obtain rfl := Sockets.eq_of_readAddress read
              simpa only [read] using .bridged listener sockets bound read

inductive StartPath (host : Host) (environment : HostEnvironment) (world : HostWorld) :
    HostOutcome → Prop where
  | refused (other : host.state ≠ .constructed ∨ host.primaryListener = none) :
      StartPath host environment world
        (.error (.invalidState .start host.state), { host with primaryListener := none },
          world.close host.primaryListener)
  | plain (listener : Listener) (constructed : host.state = .constructed)
      (held : host.primaryListener = some listener)
      (disabled : host.config.bridgeEnabled = false) :
      StartPath host environment world (.ok (), host.serving listener, host.servingWorld world)
  | bridge (listener : Listener) (constructed : host.state = .constructed)
      (held : host.primaryListener = some listener)
      (enabled : host.config.bridgeEnabled = true)
      {outcome : HostOutcome}
      (path : BridgePath (host.serving listener) environment (host.servingWorld world) outcome) :
      StartPath host environment world outcome

theorem start_of_refused {host : Host}
    (other : host.state ≠ .constructed ∨ host.primaryListener = none)
    (environment : HostEnvironment) (world : HostWorld) :
    host.start environment world =
      (.error (.invalidState .start host.state), { host with primaryListener := none },
        world.close host.primaryListener) := by
  simp only [start]
  split
  · next constructed held => simp [constructed, held] at other
  · rfl

theorem start_of_constructed {host : Host} {listener : Listener}
    (constructed : host.state = .constructed) (held : host.primaryListener = some listener)
    (environment : HostEnvironment) (world : HostWorld) :
    host.start environment world =
      if host.config.bridgeEnabled then
        (host.serving listener).startBridge environment (host.servingWorld world)
      else (.ok (), host.serving listener, host.servingWorld world) := by
  simp only [start, constructed, held]
  rfl

theorem startPath (host : Host) (environment : HostEnvironment) (world : HostWorld) :
    StartPath host environment world (host.start environment world) := by
  by_cases other : host.state ≠ .constructed ∨ host.primaryListener = none
  · rw [start_of_refused other]
    exact .refused other
  · obtain ⟨constructed, present⟩ := not_or.mp other
    have constructed := Decidable.of_not_not constructed
    obtain ⟨listener, held⟩ := Option.ne_none_iff_exists'.mp present
    rw [start_of_constructed constructed held]
    cases enabled : host.config.bridgeEnabled with
    | false => exact .plain listener constructed held enabled
    | true => exact .bridge listener constructed held enabled (bridgePath _ _ _)

inductive StopPath (host : Host) (environment : HostEnvironment) (world : HostWorld) :
    HostOutcome → Prop where
  | refused (other : host.state ≠ .serving) :
      StopPath host environment world
        (.error (.invalidState .stop host.state), host, world)
  | stopped (serving : host.state = .serving) :
      StopPath host environment world
        (host.stopResult environment, host.torndown, host.endedWorld environment world)

theorem stop_of_refused {host : Host} (other : host.state ≠ .serving)
    (environment : HostEnvironment) (world : HostWorld) :
    host.stop environment world = (.error (.invalidState .stop host.state), host, world) := by
  unfold stop
  rw [if_pos other]

theorem stop_of_serving {host : Host} (serving : host.state = .serving)
    (environment : HostEnvironment) (world : HostWorld) :
    host.stop environment world =
      (host.stopResult environment, host.torndown, host.endedWorld environment world) := by
  simp only [stop, serving, ne_eq, not_true_eq_false, if_false, HostWorld.join_eq]
  rfl

theorem stopPath (host : Host) (environment : HostEnvironment) (world : HostWorld) :
    StopPath host environment world (host.stop environment world) := by
  by_cases serving : host.state = .serving
  · rw [stop_of_serving serving]
    exact .stopped serving
  · rw [stop_of_refused serving]
    exact .refused serving

end Host

end RpcTransport
