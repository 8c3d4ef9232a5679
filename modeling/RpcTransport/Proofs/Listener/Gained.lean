import RpcTransport.Proofs.Listener.FirstAccepted

/-! # What a bind adds to the listeners

A bind that succeeds adds its listener behind all others, under the next number; one that
fails adds none. As long as numbers are given out in order, a listener that is closed again
leaves the listeners as they were.
-/

namespace RpcTransport

namespace Sockets

/-- Numbers have been given out in order: those to come are free. -/
def Orderly (sockets : Sockets) : Prop :=
  ∀ listener ∈ sockets.listening, listener.number < sockets.opened

structure Gains (before : Sockets) (listener : Listener) (after : Sockets) : Prop where
  listening : after.listening = before.listening ++ [listener]
  number : listener.number = before.opened
  opened : after.opened = before.opened + 1

section Gained

variable {before after : Sockets} {listener : Listener}

theorem Gains.orderly_after (gains : before.Gains listener after) (orderly : before.Orderly) :
    after.Orderly := by
  intro other member
  rw [gains.listening] at member
  rw [gains.opened]
  rcases List.mem_append.mp member with old | new
  · exact Nat.lt_succ_of_lt (orderly other old)
  · rw [List.mem_singleton.mp new, gains.number]
    exact Nat.lt_succ_self before.opened

theorem listening_close_of_last {sockets : Sockets} {others : List Listener}
    (listening : sockets.listening = others ++ [listener])
    (below : ∀ other ∈ others, other.number < listener.number) :
    (sockets.close listener).listening = others := by
  have kept : ∀ other ∈ others, decide (other.number ≠ listener.number) = true :=
    fun other member => decide_eq_true (Nat.ne_of_lt (below other member))
  rw [close, listening, List.filter_append, List.filter_eq_self.mpr kept]
  simp

theorem Gains.listening_close (gains : before.Gains listener after) (orderly : before.Orderly) :
    (after.close listener).listening = before.listening := by
  refine listening_close_of_last gains.listening ?_
  rw [gains.number]
  exact orderly

end Gained

section Bind

variable {sockets after : Sockets} {network : Network} {listener : Listener}

theorem gains_openAt {role : ListenerRole} {address : SocketAddress}
    (opened : sockets.openAt network role address = (.ok listener, after)) :
    sockets.Gains listener after := by
  rw [openAt] at opened
  cases granted : network.bind sockets address with
  | error cause => simp [granted] at opened
  | ok assigned =>
      simp only [granted, Prod.mk.injEq, Except.ok.injEq] at opened
      obtain ⟨rfl, rfl⟩ := opened
      exact ⟨rfl, rfl, rfl⟩

theorem unchanged_openAt {role : ListenerRole} {address : SocketAddress} {cause : String}
    (failed : sockets.openAt network role address = (.error cause, after)) :
    after.listening = sockets.listening ∧ after.opened = sockets.opened := by
  rw [openAt] at failed
  cases granted : network.bind sockets address with
  | error cause =>
      simp only [granted, Prod.mk.injEq] at failed
      obtain ⟨-, rfl⟩ := failed
      exact ⟨rfl, rfl⟩
  | ok assigned => simp [granted] at failed

theorem gains_bindFirst {cause : String} {candidates : List SocketAddress}
    (bound : sockets.bindFirst network cause candidates = (.ok listener, after)) :
    sockets.Gains listener after := by
  induction candidates generalizing sockets cause with
  | nil => cases bound
  | cons candidate rest ih =>
      rw [bindFirst] at bound
      cases tried : sockets.openAt network .primary candidate with
      | mk result between =>
          rw [tried] at bound
          cases result with
          | ok first =>
              cases bound
              exact gains_openAt tried
          | error cause =>
              obtain ⟨listening, opened⟩ := unchanged_openAt tried
              have gains := ih bound
              exact ⟨listening ▸ gains.listening, opened ▸ gains.number, opened ▸ gains.opened⟩

theorem gains_bind {address : String}
    (bound : sockets.bind network address = (.ok listener, after)) :
    sockets.Gains listener after := by
  rw [bind] at bound
  cases resolved : network.resolve address with
  | error cause => simp [resolved] at bound
  | ok candidates =>
      cases first : sockets.bindFirst network "could not resolve to any address" candidates with
      | mk result between =>
          cases result with
          | error e => simp [resolved, first] at bound
          | ok opened =>
              cases read : between.readAddress network opened with
              | error cause => simp [resolved, first, read] at bound
              | ok address =>
                  simp only [resolved, first, read, Prod.mk.injEq, Except.ok.injEq] at bound
                  obtain ⟨rfl, rfl⟩ := bound
                  have gains := gains_bindFirst first
                  exact ⟨gains.listening, gains.number, gains.opened⟩

end Bind

section GuardedBind

variable {sockets after : Sockets} {network : Network} {guard : Guard} {address : String}

theorem opened_passAll (sockets : Sockets) (guard : Guard) (visited : List SocketAddress) :
    (sockets.passAll guard visited).opened = sockets.opened := by
  induction visited generalizing sockets with
  | nil => rfl
  | cons candidate rest ih =>
      refine (ih (sockets.passOver guard candidate)).trans ?_
      rw [passOver]
      cases guard.refusal? candidate <;> rfl

theorem gains_or_unchanged_guardedBind (sockets : Sockets) (network : Network) (guard : Guard)
    (address : String) :
    (∃ listener after, sockets.guardedBind network guard address = (.ok listener, after) ∧
        sockets.Gains listener after) ∨
      ∃ e after, sockets.guardedBind network guard address = (.error e, after) ∧
        after.listening = sockets.listening := by
  rw [guardedBind]
  cases network.resolve address with
  | error cause => exact .inr ⟨_, sockets, rfl, rfl⟩
  | ok candidates =>
      rcases sockets.noneBound_or_firstBound network guard candidates with
        none | ⟨before, candidate, behind, assigned, rfl, first⟩
      · obtain ⟨reason, failed⟩ := bindAccepted_append none
          (.unresolved address "no addresses resolved") []
        rw [candidates.append_nil] at failed
        exact .inr ⟨reason, _, failed, sockets.listening_passAll guard candidates⟩
      · refine .inl ⟨_, _, first.bindAccepted_eq _ behind, ?_, ?_, ?_⟩
        · rw [listenOn, listening_passAll]
        · rw [bridgeListener, opened_passAll]
        · rw [listenOn, opened_passAll]

theorem gains_guardedBind {listener : Listener}
    (bound : sockets.guardedBind network guard address = (.ok listener, after)) :
    sockets.Gains listener after := by
  rcases sockets.gains_or_unchanged_guardedBind network guard address with
    ⟨_, _, opened, gains⟩ | ⟨_, _, failed, -⟩
  · cases bound.symm.trans opened
    exact gains
  · cases bound.symm.trans failed

theorem listening_of_guardedBind {e : ListenerError}
    (refused : sockets.guardedBind network guard address = (.error e, after)) :
    after.listening = sockets.listening := by
  rcases sockets.gains_or_unchanged_guardedBind network guard address with
    ⟨_, _, opened, -⟩ | ⟨_, _, failed, unchanged⟩
  · cases refused.symm.trans opened
  · cases refused.symm.trans failed
    exact unchanged

end GuardedBind

end Sockets

end RpcTransport
