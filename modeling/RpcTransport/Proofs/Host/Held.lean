import RpcTransport.Proofs.Host.Lifecycle
import RpcTransport.Proofs.Listener.Opened

/-! # Who holds the listeners

From its bind on, a host holds every listener that was opened for its servers: what it
cannot keep it closes again. So nothing of it listens any more once it is stopped.
-/

namespace RpcTransport

def HostWorld.Quiet (world : HostWorld) : Prop :=
  ∀ listener ∈ world.sockets.listening, listener.role = .metrics

theorem HostWorld.mem_listening_close {world : HostWorld} {held : Option Listener}
    {listener : Listener} (member : listener ∈ (world.close held).sockets.listening) :
    listener ∈ world.sockets.listening ∧ held ≠ some listener := by
  cases held with
  | none => exact ⟨member, by simp⟩
  | some closed =>
      obtain ⟨kept, apart⟩ := Sockets.mem_listening_close member
      exact ⟨kept, fun same => apart (Option.some.inj same).symm⟩

namespace Host

def Holds (host : Host) (listener : Listener) : Prop :=
  host.primaryListener = some listener ∨ host.primaryTask = some listener ∨
    host.bridgeTask = some listener

/-- Whatever listens for a server is held by the host. -/
def Covers (host : Host) (world : HostWorld) : Prop :=
  ∀ listener ∈ world.sockets.listening, listener.role = .metrics ∨ host.Holds listener

theorem Over.not_holds {host : Host} (ended : host.Over) (listener : Listener) :
    ¬ host.Holds listener := by
  simp [Holds, ended.released, ended.primary, ended.bridge]

theorem Over.quiet {host : Host} {world : HostWorld} (ended : host.Over)
    (covers : host.Covers world) : world.Quiet :=
  fun listener member => (covers listener member).resolve_right (ended.not_holds listener)

theorem Over.discard_eq {host : Host} (ended : host.Over) (world : HostWorld) :
    host.discard world = world := by
  simp only [discard, ended.released, ended.primary, ended.bridge, HostWorld.close]

/-- A host covers what a world with more open listeners is left with, if it holds all it
    held before and all that came. -/
theorem Covers.opens {host after : Host} {world later : HostWorld} (covers : host.Covers world)
    {purpose : ListenerRole} {result : Option Listener}
    (opens : Sockets.Opens purpose world.sockets result later.sockets)
    (keeps : ∀ listener, host.Holds listener → after.Holds listener)
    (takes : ∀ listener, result = some listener → after.Holds listener) : after.Covers later := by
  intro listener member
  rcases opens.listening listener member with old | new
  · exact (covers listener old).imp_right (keeps listener)
  · exact .inr (takes listener new)

section Paths

variable {host : Host} {environment : HostEnvironment} {world : HostWorld}
  {outcome : HostOutcome}

theorem Waiting.covers_serving (waiting : host.Waiting) {listener : Listener}
    (held : host.primaryListener = some listener) (covers : host.Covers world) :
    (host.serving listener).Covers (host.servingWorld world) := by
  intro other member
  rcases covers other member with metrics | primary | task | bridge
  · exact .inl metrics
  · exact .inr (.inr (.inl (held.symm.trans primary)))
  · simp [waiting.primary] at task
  · simp [waiting.bridge] at bridge

theorem BridgePath.covers (path : BridgePath host environment world outcome)
    (unbridged : host.bridgeTask = none) (covers : host.Covers world) :
    outcome.2.1.Covers outcome.2.2 := by
  have opens := world.sockets.opens_guardedBind environment.network host.guard
    host.config.bridgeAddress
  cases path with
  | unbound source sockets refused =>
      rw [refused] at opens
      exact covers.opens (opens.note _) (fun _ held => held) (by simp [Except.toOption])
  | unread listener sockets cause opened lost =>
      rw [opened] at opens
      exact covers.opens opens.close (fun _ held => held) (by simp)
  | bridged listener sockets opened read =>
      rw [opened] at opens
      -- the new task takes the place of none, so nothing that was held is lost
      refine covers.opens (opens.note _) ?_ fun other same => .inr (.inr same)
      rintro other (listens | task | bridge)
      · exact .inl listens
      · exact .inr (.inl task)
      · simp [unbridged] at bridge

theorem StartPath.covers (path : StartPath host environment world outcome)
    (consistent : host.Consistent) (covers : host.Covers world) :
    outcome.2.1.Covers outcome.2.2 := by
  cases path with
  | refused other =>
      obtain ⟨-, same⟩ := consistent.release other
      rw [same]
      exact fun listener member => covers listener (HostWorld.mem_listening_close member).1
  | plain listener constructed held disabled =>
      exact (consistent.waiting constructed).covers_serving held covers
  | bridge listener constructed held enabled path =>
      have waiting := consistent.waiting constructed
      exact path.covers waiting.bridge (waiting.covers_serving held covers)

theorem StopPath.covers (path : StopPath host environment world outcome)
    (consistent : host.Consistent) (covers : host.Covers world) :
    outcome.2.1.Covers outcome.2.2 := by
  cases path with
  | refused other => exact covers
  | stopped serving =>
      intro listener member
      -- the wait for a task closes its listener
      have remains : listener ∈ (((world.joined environment .primary true
          host.primaryTask).joined environment .bridge true host.bridgeTask)).sockets.listening :=
        member
      rw [HostWorld.listening_joined] at remains
      obtain ⟨between, notBridge⟩ := HostWorld.mem_listening_close remains
      rw [HostWorld.listening_joined] at between
      obtain ⟨before, notPrimary⟩ := HostWorld.mem_listening_close between
      rcases covers listener before with metrics | listens | task | bridge
      · exact .inl metrics
      · simp [(consistent.active serving).handed] at listens
      · exact absurd task notPrimary
      · exact absurd bridge notBridge

theorem Active.quiet_endedWorld (active : host.Active) (environment : HostEnvironment)
    (serving : host.state = .serving) (covers : host.Covers world) :
    (host.endedWorld environment world).Quiet := by
  have stopped : StopPath host environment world _ := .stopped serving
  exact active.over_torndown.quiet (stopped.covers (.serving serving active) covers)

end Paths

section Bind

variable {config : HostConfig} {guard : Guard} {environment : HostEnvironment}
  {world after : HostWorld}

theorem BindPath.quiet {error : HostError}
    (path : BindPath config guard environment world (.error error, after))
    (quiet : world.Quiet) : after.Quiet := by
  have opens := world.sockets.opens_bind environment.network config.primaryAddress
  cases path with
  | unbound source sockets refused =>
      rw [refused] at opens
      exact fun listener member => (opens.listening listener member).elim (quiet listener)
        (by simp [Except.toOption])
  | unread listener sockets cause opened lost =>
      rw [opened] at opens
      exact fun other member => (opens.close.listening other member).elim (quiet other) (by simp)

theorem BindPath.covers {host : Host}
    (path : BindPath config guard environment world (.ok host, after))
    (quiet : world.Quiet) : host.Covers after := by
  have opens := world.sockets.opens_bind environment.network config.primaryAddress
  cases path with
  | bound listener sockets opened read =>
      rw [opened] at opens
      intro other member
      rcases opens.listening other member with old | new
      · exact .inl (quiet other old)
      · exact .inr (.inl new)

end Bind

end Host

end RpcTransport
