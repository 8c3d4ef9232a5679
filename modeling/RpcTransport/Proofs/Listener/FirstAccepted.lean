import RpcTransport.Listener.Bind
import RpcTransport.Proofs.Observe.Totals

/-! # The first candidate that can be had

A guarded bind goes through its candidates in order and ends at the first that the guard
accepts and the network grants. What it passed over on the way shows in the sockets it made
and in the refusals it counted; of the candidates behind, nothing does.
-/

namespace RpcTransport

def Guard.refusal? (guard : Guard) (candidate : SocketAddress) : Option GuardError :=
  match guard.validate candidate.network candidate.text with
  | .error e => some e
  | .ok () => none

namespace Sockets

section Candidates

variable (sockets : Sockets) (network : Network) (guard : Guard)

def passOver (candidate : SocketAddress) : Sockets :=
  match guard.refusal? candidate with
  | some e =>
    (sockets.note (.bindRejected candidate.network candidate.text e.message)).count
      (.rejection e.reason)
  | none => { sockets with attempts := sockets.attempts ++ [(.bridge, candidate)] }

def passAll (candidates : List SocketAddress) : Sockets :=
  candidates.foldl (·.passOver guard ·) sockets

def candidateFailure? (candidate : SocketAddress) : Option ListenerError :=
  match guard.refusal? candidate, network.bind sockets candidate with
  | some e, _ => some (.rejected e)
  | none, .error cause => some (.unbound cause)
  | none, .ok _ => none

/-- No listener comes of some candidates, each tried behind those before it. -/
def NoneBound (candidates : List SocketAddress) : Prop :=
  ∀ before candidate behind, candidates = before ++ candidate :: behind →
    ((sockets.passAll guard before).candidateFailure? network guard candidate).isSome

/-- A listener comes of a candidate behind some others, but of none of those. -/
structure FirstBound (before : List SocketAddress) (candidate : SocketAddress)
    (assigned : UInt16) : Prop where
  others : sockets.NoneBound network guard before
  accepted : guard.refusal? candidate = none
  granted : network.bind (sockets.passAll guard before) candidate = .ok assigned

end Candidates

section Bind

variable {sockets : Sockets} {network : Network} {guard : Guard} {candidate : SocketAddress}
  {candidates : List SocketAddress}

theorem noneBound_nil : sockets.NoneBound network guard [] := by
  intro before candidate behind split
  simp at split

theorem noneBound_cons : sockets.NoneBound network guard (candidate :: candidates) ↔
    (sockets.candidateFailure? network guard candidate).isSome ∧
      (sockets.passOver guard candidate).NoneBound network guard candidates := by
  constructor
  · intro none
    refine ⟨none [] candidate candidates rfl, ?_⟩
    rintro before other behind rfl
    exact none (candidate :: before) other behind rfl
  · rintro ⟨failed, none⟩ before other behind split
    cases before with
    | nil =>
        cases split
        exact failed
    | cons first before =>
        cases split
        exact none before other behind rfl

theorem bindAccepted_of_failure {reason : ListenerError}
    (failed : sockets.candidateFailure? network guard candidate = some reason)
    (failure : ListenerError) (rest : List SocketAddress) :
    sockets.bindAccepted network guard failure (candidate :: rest) =
      (sockets.passOver guard candidate).bindAccepted network guard reason rest := by
  simp only [candidateFailure?, Guard.refusal?] at failed
  simp only [bindAccepted, passOver, Guard.refusal?, openAt]
  cases checked : guard.validate candidate.network candidate.text with
  | error e =>
      simp only [checked, Option.some.injEq] at failed
      simp only [failed]
  | ok =>
      cases granted : network.bind sockets candidate with
      | error cause =>
          simp only [checked, granted, Option.some.injEq] at failed
          simp only [failed]
      | ok assigned => simp [checked, granted] at failed

theorem granted_of_candidateFailure
    (unfailed : sockets.candidateFailure? network guard candidate = none) :
    ∃ assigned, guard.refusal? candidate = none ∧
      network.bind sockets candidate = .ok assigned := by
  simp only [candidateFailure?] at unfailed
  split at unfailed
  · cases unfailed
  · cases unfailed
  · next accepted granted => exact ⟨_, accepted, granted⟩

def bridgeListener (sockets : Sockets) (candidate : SocketAddress) (assigned : UInt16) :
    Listener :=
  ⟨sockets.opened, .bridge, localAddress candidate assigned⟩

def listenOn (sockets : Sockets) (candidate : SocketAddress) (assigned : UInt16) : Sockets :=
  { sockets with
    attempts := sockets.attempts ++ [(.bridge, candidate)]
    opened := sockets.opened + 1
    listening := sockets.listening ++ [sockets.bridgeListener candidate assigned]
    journal := sockets.journal.note (.guardedBound candidate.network candidate.text) }

theorem bindAccepted_of_granted {assigned : UInt16}
    (accepted : guard.refusal? candidate = none)
    (granted : network.bind sockets candidate = .ok assigned) (failure : ListenerError)
    (rest : List SocketAddress) :
    sockets.bindAccepted network guard failure (candidate :: rest) =
      (.ok (sockets.bridgeListener candidate assigned),
        sockets.listenOn candidate assigned) := by
  simp only [Guard.refusal?] at accepted
  split at accepted
  · cases accepted
  · next checked =>
      simp only [bindAccepted, checked, openAt, granted]
      rfl

theorem bindAccepted_append (none : sockets.NoneBound network guard candidates)
    (failure : ListenerError) (rest : List SocketAddress) :
    ∃ reason, sockets.bindAccepted network guard failure (candidates ++ rest) =
      (sockets.passAll guard candidates).bindAccepted network guard reason rest := by
  induction candidates generalizing sockets failure with
  | nil => exact ⟨failure, rfl⟩
  | cons candidate others ih =>
      obtain ⟨failed, none⟩ := noneBound_cons.mp none
      obtain ⟨reason, failed⟩ := Option.isSome_iff_exists.mp failed
      rw [List.cons_append, bindAccepted_of_failure failed]
      exact ih none reason

theorem noneBound_or_firstBound (sockets : Sockets) (network : Network) (guard : Guard)
    (candidates : List SocketAddress) :
    sockets.NoneBound network guard candidates ∨
      ∃ before candidate behind assigned, candidates = before ++ candidate :: behind ∧
        sockets.FirstBound network guard before candidate assigned := by
  induction candidates generalizing sockets with
  | nil => exact .inl noneBound_nil
  | cons head rest ih =>
      cases failed : sockets.candidateFailure? network guard head with
      | none =>
          obtain ⟨assigned, accepted, granted⟩ := granted_of_candidateFailure failed
          exact .inr ⟨[], head, rest, assigned, rfl, noneBound_nil, accepted, granted⟩
      | some reason =>
          have passed : (sockets.candidateFailure? network guard head).isSome := by
            rw [failed, Option.isSome_some]
          rcases ih (sockets.passOver guard head) with
            none | ⟨before, candidate, behind, assigned, rfl, first⟩
          · exact .inl (noneBound_cons.mpr ⟨passed, none⟩)
          · have others := noneBound_cons.mpr ⟨passed, first.others⟩
            exact .inr ⟨head :: before, candidate, behind, assigned, rfl, others, first.accepted,
              first.granted⟩

end Bind

section Visits

structure Visits (sockets : Sockets) (guard : Guard) (visited : List SocketAddress)
    (after : Sockets) : Prop where
  /-- A socket was made for each one that the guard accepts, in order, and for no other. -/
  attempts : after.attempts = sockets.attempts ++
    (visited.filter fun candidate => (guard.refusal? candidate).isNone).map (.bridge, ·)
  /-- Each one that it refuses was counted under the reason, and nothing else was. -/
  counts : after.journal.counts =
    sockets.journal.counts ++ (visited.filterMap guard.refusal?).map (.rejection ·.reason)
  /-- The report has each refusal once, under its reason. -/
  rejections : ∀ reason, after.journal.rejections reason = sockets.journal.rejections reason +
    visited.countP fun candidate => (guard.refusal? candidate).any (·.reason == reason)

namespace Visits

variable {sockets between after : Sockets} {guard : Guard} {visited others : List SocketAddress}

theorem of_counts
    (attempts : after.attempts = sockets.attempts ++
      (visited.filter fun candidate => (guard.refusal? candidate).isNone).map (.bridge, ·))
    (counts : after.journal.counts =
      sockets.journal.counts ++ (visited.filterMap guard.refusal?).map (.rejection ·.reason)) :
    sockets.Visits guard visited after := by
  refine ⟨attempts, counts, fun reason => ?_⟩
  have refused : ((visited.filterMap guard.refusal?).map (Count.rejection ·.reason)).countP
      (·.isRejection reason) =
        visited.countP fun candidate => (guard.refusal? candidate).any (·.reason == reason) := by
    rw [List.countP_map, List.countP_filterMap]
    refine List.countP_congr fun candidate _ => ?_
    cases guard.refusal? candidate <;> exact Iff.rfl
  rw [Journal.rejections_eq, Journal.rejections_eq, counts, List.countP_append, refused]

theorem refl (sockets : Sockets) (guard : Guard) : sockets.Visits guard [] sockets :=
  .of_counts (by simp) (by simp)

theorem trans (first : sockets.Visits guard visited between)
    (second : between.Visits guard others after) :
    sockets.Visits guard (visited ++ others) after := by
  refine .of_counts ?_ ?_
  · simp [second.attempts, first.attempts]
  · simp [second.counts, first.counts]

end Visits

variable {sockets : Sockets} {guard : Guard} {candidate : SocketAddress}

theorem visits_passOver (sockets : Sockets) (guard : Guard) (candidate : SocketAddress) :
    sockets.Visits guard [candidate] (sockets.passOver guard candidate) := by
  simp only [passOver]
  cases refused : guard.refusal? candidate with
  | some e => refine .of_counts ?_ ?_ <;> simp [note, count, refused]
  | none => refine .of_counts ?_ ?_ <;> simp [refused]

theorem visits_listenOn (accepted : guard.refusal? candidate = none) (assigned : UInt16) :
    sockets.Visits guard [candidate] (sockets.listenOn candidate assigned) := by
  refine .of_counts ?_ ?_ <;> simp [listenOn, accepted]

theorem listening_passOver (sockets : Sockets) (guard : Guard) (candidate : SocketAddress) :
    (sockets.passOver guard candidate).listening = sockets.listening := by
  rw [passOver]
  cases guard.refusal? candidate <;> rfl

theorem visits_passAll (sockets : Sockets) (guard : Guard) (visited : List SocketAddress) :
    sockets.Visits guard visited (sockets.passAll guard visited) := by
  induction visited generalizing sockets with
  | nil => exact .refl sockets guard
  | cons candidate rest ih => exact (sockets.visits_passOver guard candidate).trans (ih _)

theorem listening_passAll (sockets : Sockets) (guard : Guard) (visited : List SocketAddress) :
    (sockets.passAll guard visited).listening = sockets.listening := by
  induction visited generalizing sockets with
  | nil => rfl
  | cons candidate rest ih => exact (ih _).trans (sockets.listening_passOver guard candidate)

end Visits

section Outcome

def bindResolved (sockets : Sockets) (network : Network) (guard : Guard) (address : String) :
    Except String (List SocketAddress) → Except ListenerError Listener × Sockets
  | .error cause => (.error (.unresolved address cause), sockets)
  | .ok candidates =>
    sockets.bindAccepted network guard (.unresolved address "no addresses resolved") candidates

structure BindsFirst (sockets : Sockets) (network : Network) (guard : Guard) (address : String)
    (found : Except String (List SocketAddress))
    (outcome : Except ListenerError Listener × Sockets) : Prop where
  /-- An address that does not resolve leaves everything as it is. -/
  unresolved : ∀ cause, found = .error cause →
    outcome = (.error (.unresolved address cause), sockets)
  /-- So does one that resolves to nothing. -/
  empty : found = .ok [] →
    outcome = (.error (.unresolved address "no addresses resolved"), sockets)
  /-- The bind ends at the first candidate of which a listener comes. -/
  first : ∀ before candidate behind assigned, found = .ok (before ++ candidate :: behind) →
    sockets.FirstBound network guard before candidate assigned →
      let listener := (sockets.passAll guard before).bridgeListener candidate assigned
      outcome.1 = .ok listener ∧ outcome.2.listening = sockets.listening ++ [listener] ∧
        sockets.Visits guard (before ++ [candidate]) outcome.2
  /-- If there is none, the failure is that of the last candidate. -/
  exhausted : ∀ others last, found = .ok (others ++ [last]) →
    sockets.NoneBound network guard (others ++ [last]) →
      (∃ reason, (sockets.passAll guard others).candidateFailure? network guard last =
        some reason ∧ outcome.1 = .error reason) ∧
      outcome.2.listening = sockets.listening ∧
        sockets.Visits guard (others ++ [last]) outcome.2
  /-- No listener comes of anything else. -/
  bound : ∀ listener, outcome.1 = .ok listener →
    ∃ before candidate behind assigned, found = .ok (before ++ candidate :: behind) ∧
      sockets.FirstBound network guard before candidate assigned

variable {sockets : Sockets} {network : Network} {guard : Guard} {before : List SocketAddress}
  {candidate : SocketAddress} {assigned : UInt16}

/-- The candidates behind the first one of which a listener comes are not visited. -/
theorem FirstBound.bindAccepted_eq
    (first : sockets.FirstBound network guard before candidate assigned)
    (failure : ListenerError) (behind : List SocketAddress) :
    sockets.bindAccepted network guard failure (before ++ candidate :: behind) =
      (.ok ((sockets.passAll guard before).bridgeListener candidate assigned),
        (sockets.passAll guard before).listenOn candidate assigned) := by
  obtain ⟨reason, passed⟩ := bindAccepted_append first.others failure (candidate :: behind)
  rw [passed, bindAccepted_of_granted first.accepted first.granted]

theorem NoneBound.bindAccepted_eq {others : List SocketAddress} {last : SocketAddress}
    (none : sockets.NoneBound network guard (others ++ [last])) (failure : ListenerError) :
    ∃ reason, (sockets.passAll guard others).candidateFailure? network guard last = some reason ∧
      sockets.bindAccepted network guard failure (others ++ [last]) =
        (.error reason, sockets.passAll guard (others ++ [last])) := by
  have earlier : sockets.NoneBound network guard others := by
    rintro before candidate behind rfl
    exact none before candidate (behind ++ [last]) (by simp)
  obtain ⟨reason, failed⟩ := Option.isSome_iff_exists.mp (none others last [] rfl)
  obtain ⟨_, passed⟩ := bindAccepted_append earlier failure [last]
  refine ⟨reason, failed, ?_⟩
  rw [passed, bindAccepted_of_failure failed, bindAccepted, passAll, passAll, List.foldl_append]
  rfl

theorem bindsFirst_bindResolved (sockets : Sockets) (network : Network) (guard : Guard)
    (address : String) (found : Except String (List SocketAddress)) :
    sockets.BindsFirst network guard address found
      (sockets.bindResolved network guard address found) := by
  constructor
  case unresolved =>
    rintro cause rfl
    rfl
  case empty =>
    rintro rfl
    rfl
  case first =>
    rintro before candidate behind assigned rfl first
    rw [bindResolved, first.bindAccepted_eq]
    refine ⟨rfl, ?_,
      (sockets.visits_passAll guard before).trans (visits_listenOn first.accepted _)⟩
    simp only [listenOn, listening_passAll]
  case exhausted =>
    rintro others last rfl none
    obtain ⟨reason, failed, ended⟩ := none.bindAccepted_eq (.unresolved address
      "no addresses resolved")
    rw [bindResolved, ended]
    exact ⟨⟨reason, failed, rfl⟩, sockets.listening_passAll guard _, sockets.visits_passAll guard _⟩
  case bound =>
    intro listener ended
    cases found with
    | error cause => cases ended
    | ok candidates =>
        rcases sockets.noneBound_or_firstBound network guard candidates with
          none | ⟨before, candidate, behind, assigned, rfl, first⟩
        · -- with nothing behind the candidates, there is only a failure to return
          obtain ⟨reason, failed⟩ := bindAccepted_append none (.unresolved address
            "no addresses resolved") []
          rw [bindResolved, ← candidates.append_nil, failed] at ended
          cases ended
        · exact ⟨before, candidate, behind, assigned, rfl, first⟩

/-- A guarded bind resolves its address once, and listens on the first candidate that the guard
    accepts and the network grants. -/
theorem guardedBind_bindsFirst (sockets : Sockets) (network : Network) (guard : Guard)
    (address : String) :
    sockets.guardedBind network guard address =
        sockets.bindResolved network guard address (network.resolve address) ∧
      ∀ found, sockets.BindsFirst network guard address found
        (sockets.bindResolved network guard address found) := by
  refine ⟨?_, sockets.bindsFirst_bindResolved network guard address⟩
  rw [guardedBind]
  cases network.resolve address <;> rfl

end Outcome

end Sockets

end RpcTransport
