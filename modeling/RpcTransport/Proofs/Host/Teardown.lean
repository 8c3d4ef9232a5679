import RpcTransport.Host.Run
import RpcTransport.Listener.LocalNetwork
import RpcTransport.Proofs.Host.Operations

/-! # What a stop comes to

A stop raises the flag and then waits for every task that there is, also behind one that did not
end cleanly. It tells of each failure, and the first one is its result; whatever that is, the
host is over, and nothing can be done with it any more.
-/

namespace RpcTransport

namespace Host

def task? (host : Host) : Server → Option Listener
  | .primary => host.primaryTask
  | .bridge => host.bridgeTask

/-- Why the task of a server does not end cleanly once the flag is up, if it does not. -/
def failure? (host : Host) (environment : HostEnvironment) (server : Server) : Option String :=
  (host.task? server).bind fun _ => (environment.ending server true).failure?

structure StopsServers (host : Host) (environment : HostEnvironment) (world : HostWorld)
    (outcome : HostOutcome) : Prop where
  /-- Each server with a task is waited for, with the flag up. -/
  waits : outcome.2.2.joins = world.joins ++
    ([.primary, .bridge].filter fun server => (host.task? server).isSome).map (⟨·, true⟩)
  raised : outcome.2.1.shutdown.flag = true
  state : outcome.2.1.state = .stopped
  released : outcome.2.1.primaryTask = none ∧ outcome.2.1.bridgeTask = none ∧
    outcome.2.1.bridgeAddress = none
  primary : ∀ message, host.failure? environment .primary = some message →
    outcome.1 = .error (.serve .primary message)
  bridge : host.failure? environment .primary = none →
    ∀ message, host.failure? environment .bridge = some message →
      outcome.1 = .error (.serve .bridge message)
  clean : host.failure? environment .primary = none →
    host.failure? environment .bridge = none → outcome.1 = .ok ()
  /-- Every failure is told of, also one that is not the result. -/
  notices : outcome.2.2.sockets.journal.notices = world.sockets.journal.notices ++
    [Server.primary, .bridge].filterMap (fun server =>
      (host.failure? environment server).map (.serverTerminated server.name ·)) ++
    [.tornDown host.serviceName]
  /-- As long as the host is there, it refuses everything. -/
  settled : ∀ (actions : List (HostEnvironment × HostAction)) last,
    ((⟨some outcome.2.1, outcome.2.2⟩ : HostRun).acts actions).host = some last →
      ∀ environment operation,
        (((⟨some outcome.2.1, outcome.2.2⟩ : HostRun).acts actions).act environment
          (.operation operation)).1 = some (.error (.invalidState operation .stopped))

section Waits

variable (environment : HostEnvironment)

theorem joinResult_task (host : Host) (server : Server) :
    HostWorld.joinResult environment server true (host.task? server) =
      match host.failure? environment server with
      | none => .ok ()
      | some message => .error (.serve server message) := by
  unfold HostWorld.joinResult failure?
  cases host.task? server <;> rfl

theorem notices_joined (host : Host) (world : HostWorld) (server : Server) :
    (world.joined environment server true (host.task? server)).sockets.journal.notices =
      world.sockets.journal.notices ++
        ((host.failure? environment server).map (.serverTerminated server.name ·)).toList := by
  unfold HostWorld.joined HostWorld.join failure?
  cases host.task? server with
  | none => simp
  | some listener =>
      cases (environment.ending server true).failure? <;>
        simp [HostWorld.close, HostWorld.note, Sockets.close, Sockets.note]

theorem notices_endedWorld (host : Host) (world : HostWorld) :
    (host.endedWorld environment world).sockets.journal.notices =
      world.sockets.journal.notices ++
        [Server.primary, .bridge].filterMap (fun server =>
          (host.failure? environment server).map (.serverTerminated server.name ·)) ++
        [.tornDown host.serviceName] := by
  have primary := host.notices_joined environment world .primary
  have bridge := host.notices_joined environment
    (world.joined environment .primary true host.primaryTask) .bridge
  simp only [task?] at primary bridge
  simp only [endedWorld, HostWorld.note, Sockets.note, Journal.notices_note, bridge, primary]
  cases first : host.failure? environment .primary <;>
    cases second : host.failure? environment .bridge <;> simp [first, second]

end Waits

theorem acts_of_gone (world : HostWorld) (actions : List (HostEnvironment × HostAction)) :
    (⟨none, world⟩ : HostRun).acts actions = ⟨none, world⟩ := by
  induction actions with
  | nil => rfl
  | cons step rest ih => exact ih

theorem operate_of_stopped {host : Host} (stopped : host.state = .stopped) (world : HostWorld)
    (environment : HostEnvironment) (operation : HostOperation) :
    ∃ last later, (⟨some host, world⟩ : HostRun).act environment (.operation operation) =
      (some (.error (.invalidState operation .stopped)), ⟨some last, later⟩) ∧
        last.state = .stopped := by
  rw [← stopped]
  cases operation with
  | start =>
      have other : host.state ≠ .constructed := by simp [stopped]
      have refused := start_of_refused (.inl other) environment world
      refine ⟨{ host with primaryListener := none }, world.close host.primaryListener, ?_, rfl⟩
      simp only [HostRun.act, refused]
  | stop =>
      have other : host.state ≠ .serving := by simp [stopped]
      have refused := stop_of_refused other environment world
      refine ⟨host, world, ?_, rfl⟩
      simp only [HostRun.act, refused]

theorem stopped_of_acts {host last : Host} {world : HostWorld}
    {actions : List (HostEnvironment × HostAction)} (stopped : host.state = .stopped)
    (present : ((⟨some host, world⟩ : HostRun).acts actions).host = some last) :
    last.state = .stopped := by
  induction actions generalizing host world with
  | nil =>
      cases present
      exact stopped
  | cons step rest ih =>
      obtain ⟨environment, action⟩ := step
      cases action with
      | operation operation =>
          obtain ⟨next, later, acted, ended⟩ :=
            operate_of_stopped stopped world environment operation
          apply ih ended
          simpa [HostRun.acts, acted] using present
      | discard =>
          have gone := acts_of_gone (host.discard world) rest
          exact absurd (congrArg HostRun.host gone ▸ present) (by simp)

/-- A host that serves is stopped, however its tasks end. -/
theorem stop_stopsServers {host : Host} (serving : host.state = .serving)
    (environment : HostEnvironment) (world : HostWorld) :
    StopsServers host environment world (host.stop environment world) := by
  rw [stop_of_serving serving]
  have primary := host.joinResult_task environment .primary
  have bridge := host.joinResult_task environment .bridge
  unfold task? at primary bridge
  constructor
  case waits =>
    rw [joins_endedWorld]
    unfold task?
    cases host.primaryTask <;> cases host.bridgeTask <;> simp
  case raised => rfl
  case state => rfl
  case released => exact ⟨rfl, rfl, rfl⟩
  case primary =>
    intro message failed
    simp [stopResult, primary, failed, firstFailure]
  case bridge =>
    intro ended message failed
    simp [stopResult, primary, bridge, ended, failed, firstFailure]
  case clean =>
    intro ended both
    simp [stopResult, primary, bridge, ended, both, firstFailure]
  case notices => exact host.notices_endedWorld environment world
  case settled =>
    intro actions last present ending operation
    have stopped : host.torndown.state = .stopped := rfl
    have ended := stopped_of_acts stopped present
    generalize (⟨some host.torndown, host.endedWorld environment world⟩ : HostRun).acts actions =
      run at present ⊢
    obtain ⟨_, later⟩ := run
    cases present
    obtain ⟨_, _, refused, -⟩ := operate_of_stopped ended later ending operation
    rw [refused]

/-- Both tasks fail: the primary server crashes, and the bridge is waited for all the same. -/
theorem stopsServers_bothFail :
    let environment : HostEnvironment := ⟨(⟨[], 40000, []⟩ : LocalNetwork).network,
      fun server _ => if server = .primary then .crashed "panic" else .failed "reset"⟩
    let config : HostConfig := ⟨"unit", "127.0.0.1:9090", true, "127.0.0.1:9091"⟩
    let primary : Listener := ⟨0, .primary, .v4 ⟨127, 0, 0, 1⟩ 9090⟩
    let bridge : Listener := ⟨1, .bridge, .v4 ⟨127, 0, 0, 1⟩ 9091⟩
    let host : Host := ((bound config ⟨.ofList ["9091"]⟩ primary).serving primary).bridged bridge
    let outcome := host.stop environment {}
    host.state = .serving ∧ StopsServers host environment {} outcome ∧
      outcome.1 = .error (.serve .primary "panic") ∧
        outcome.2.2.joins = [⟨.primary, true⟩, ⟨.bridge, true⟩] ∧
          outcome.2.2.sockets.journal.notices = [.serverTerminated "primary" "panic",
            .serverTerminated "bridge" "reset", .tornDown "unit"] := by
  intro environment config primary bridge host outcome
  have stops : StopsServers host environment {} outcome := stop_stopsServers rfl environment {}
  exact ⟨rfl, stops, stops.primary "panic" rfl, stops.waits, stops.notices⟩

end Host

end RpcTransport
