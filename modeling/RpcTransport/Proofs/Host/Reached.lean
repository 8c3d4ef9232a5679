import RpcTransport.Host.Run
import RpcTransport.Proofs.Host.Operations

/-! # States that a host reaches

A host is reached from its bind by operations in any order. The environment may be another
one at every step.
-/

namespace RpcTransport

namespace HostRun

def Reached (config : HostConfig) (guard : Guard) (run : HostRun) : Prop :=
  ∃ environment world started after actions,
    start config guard environment world = (.ok started, after) ∧ run = started.acts actions

/-- What binding establishes and every action keeps, holds wherever a host gets. -/
theorem Reached.induction {P : HostRun → Prop} {config : HostConfig} {guard : Guard}
    (bound : ∀ environment world started after,
      start config guard environment world = (.ok started, after) → P started)
    (step : ∀ run environment action, P run → P (run.act environment action).2)
    {run : HostRun} (reached : Reached config guard run) : P run := by
  obtain ⟨environment, world, started, after, actions, success, rfl⟩ := reached
  have first : P started := bound environment world started after success
  clear success
  induction actions generalizing started with
  | nil => exact first
  | cons action rest ih => exact ih _ (step started action.1 action.2 first)

def bound (config : HostConfig) (guard : Guard) (world : HostWorld) (listener : Listener)
    (sockets : Sockets) : HostRun :=
  ⟨some (.bound config guard listener), { world with sockets := sockets }⟩

variable {config : HostConfig} {guard : Guard} {environment : HostEnvironment}
  {world : HostWorld}

theorem start_of_bind {listener : Listener} {sockets : Sockets}
    (opened : world.sockets.bind environment.network config.primaryAddress =
      (.ok listener, sockets))
    (read : sockets.readAddress environment.network listener = .ok listener.localAddress) :
    start config guard environment world =
      (.ok (bound config guard world listener sockets),
        (bound config guard world listener sockets).world) := by
  simp only [start, Host.bind, opened, read]
  rfl

theorem eq_bound {after : HostWorld} {run : HostRun}
    (success : start config guard environment world = (.ok run, after)) :
    ∃ listener sockets,
      world.sockets.bind environment.network config.primaryAddress = (.ok listener, sockets) ∧
        run = bound config guard world listener sockets ∧ after = run.world := by
  have path := Host.bindPath config guard environment world
  rw [start] at success
  generalize Host.bind config guard environment world = outcome at path success
  cases path with
  | unbound source sockets refused => cases success
  | unread listener sockets cause opened lost => cases success
  | bound listener sockets opened read =>
      cases success
      exact ⟨listener, sockets, opened, rfl, rfl⟩

end HostRun

end RpcTransport
