import RpcTransport.Listener.Bind

/-! # What opening a listener leaves

Every way to open a listener makes sockets for one role only, and at most the listener that
it returns is left of them. Closing a listener leaves the others.
-/

namespace RpcTransport

namespace Sockets

/-- Sockets were made for a role, of which no listener is left but the one that came of
    it. -/
structure Opens (purpose : ListenerRole) (before : Sockets) (result : Option Listener)
    (after : Sockets) : Prop where
  listening : ∀ listener ∈ after.listening, listener ∈ before.listening ∨ result = some listener
  role : ∀ listener, result = some listener → listener.role = purpose
  attempts : ∃ more, after.attempts = before.attempts ++ more ∧
    ∀ attempt ∈ more, attempt.1 = purpose

section Close

variable {sockets : Sockets} {listener other : Listener}

theorem mem_listening_close (member : other ∈ (sockets.close listener).listening) :
    other ∈ sockets.listening ∧ other ≠ listener := by
  obtain ⟨kept, apart⟩ := List.mem_filter.mp member
  refine ⟨kept, ?_⟩
  rintro rfl
  simp at apart

end Close

namespace Opens

variable {role : ListenerRole} {before between after : Sockets} {result : Option Listener}

theorem refl (role : ListenerRole) (sockets : Sockets) : Opens role sockets none sockets :=
  ⟨fun _ member => .inl member, by simp, [], by simp⟩

theorem trans (first : Opens role before none between) (second : Opens role between result after) :
    Opens role before result after := by
  obtain ⟨more, made, roles⟩ := first.attempts
  obtain ⟨others, later, alike⟩ := second.attempts
  refine ⟨fun listener member => ?_, second.role, more ++ others, ?_, ?_⟩
  · rcases second.listening listener member with earlier | new
    · rcases first.listening listener earlier with old | absent
      · exact .inl old
      · cases absent
    · exact .inr new
  · rw [later, made, List.append_assoc]
  · intro attempt member
    rcases List.mem_append.mp member with earlier | new
    · exact roles attempt earlier
    · exact alike attempt new

theorem note (opens : Opens role before result after) (notice : Notice) :
    Opens role before result (after.note notice) :=
  ⟨opens.listening, opens.role, opens.attempts⟩

theorem count (opens : Opens role before result after) (increment : Count) :
    Opens role before result (after.count increment) :=
  ⟨opens.listening, opens.role, opens.attempts⟩

theorem close {listener : Listener} (opens : Opens role before (some listener) after) :
    Opens role before none (after.close listener) := by
  refine ⟨fun other member => ?_, by simp, opens.attempts⟩
  obtain ⟨kept, apart⟩ := mem_listening_close member
  rcases opens.listening other kept with old | new
  · exact .inl old
  · exact absurd (Option.some.inj new).symm apart

end Opens

theorem opens_openAt (sockets : Sockets) (network : Network) (role : ListenerRole)
    (address : SocketAddress) :
    Opens role sockets (sockets.openAt network role address).1.toOption
      (sockets.openAt network role address).2 := by
  simp only [openAt]
  cases network.bind sockets address with
  | error cause =>
      exact ⟨fun _ member => .inl member, by simp [Except.toOption], [(role, address)], rfl,
        by simp⟩
  | ok assigned =>
      refine ⟨fun listener member => ?_, ?_, [(role, address)], rfl, by simp⟩
      · rcases List.mem_append.mp member with old | new
        · exact .inl old
        · exact .inr (congrArg some (List.mem_singleton.mp new).symm)
      · rintro listener ⟨⟩
        rfl

theorem opens_bindFirst (sockets : Sockets) (network : Network) (cause : String)
    (candidates : List SocketAddress) :
    Opens .primary sockets (sockets.bindFirst network cause candidates).1.toOption
      (sockets.bindFirst network cause candidates).2 := by
  induction candidates generalizing sockets cause with
  | nil => exact .refl _ _
  | cons candidate rest ih =>
      have first := sockets.opens_openAt network .primary candidate
      rw [bindFirst]
      cases tried : sockets.openAt network .primary candidate with
      | mk result after =>
          rw [tried] at first
          cases result with
          | ok listener => exact first
          | error cause => exact first.trans (ih after cause)

theorem opens_bind (sockets : Sockets) (network : Network) (address : String) :
    Opens .primary sockets (sockets.bind network address).1.toOption
      (sockets.bind network address).2 := by
  rw [bind]
  cases network.resolve address with
  | error cause => exact .refl _ _
  | ok candidates =>
      have first := sockets.opens_bindFirst network "could not resolve to any address" candidates
      simp only
      cases tried : sockets.bindFirst network "could not resolve to any address" candidates with
      | mk result after =>
          rw [tried] at first
          cases result with
          | error e => exact first
          | ok listener =>
              simp only
              cases after.readAddress network listener with
              | ok address => exact first.note _
              | error cause => exact first.close

theorem opens_bindAccepted (sockets : Sockets) (network : Network) (guard : Guard)
    (failure : ListenerError) (candidates : List SocketAddress) :
    Opens .bridge sockets (sockets.bindAccepted network guard failure candidates).1.toOption
      (sockets.bindAccepted network guard failure candidates).2 := by
  induction candidates generalizing sockets failure with
  | nil => exact .refl _ _
  | cons candidate rest ih =>
      rw [bindAccepted]
      cases guard.validate candidate.network candidate.text with
      | error e => exact (((Opens.refl _ _).note _).count _).trans (ih _ _)
      | ok =>
          have first := sockets.opens_openAt network .bridge candidate
          simp only
          cases tried : sockets.openAt network .bridge candidate with
          | mk result after =>
              rw [tried] at first
              cases result with
              | ok listener => exact first.note _
              | error cause => exact first.trans (ih after _)

theorem opens_guardedBind (sockets : Sockets) (network : Network) (guard : Guard)
    (address : String) :
    Opens .bridge sockets (sockets.guardedBind network guard address).1.toOption
      (sockets.guardedBind network guard address).2 := by
  rw [guardedBind]
  cases network.resolve address with
  | error cause => exact .refl _ _
  | ok candidates => exact opens_bindAccepted _ _ _ _ _

end Sockets

end RpcTransport
