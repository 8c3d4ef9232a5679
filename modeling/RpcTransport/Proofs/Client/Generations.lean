import RpcTransport.Proofs.Client.Reached
import RpcTransport.Proofs.Client.Recovery

/-! # A call runs on the latest connection

A stub is as old as its connection, and connections are numbered by the dials that
succeeded. Whatever stub a call is given, it stands on the connection of the dial just
before, and that dial succeeded; a connection once given up is never used again.
-/

namespace RpcTransport

variable {α : Type}

def successes (dials : List DialRecord) : Nat :=
  dials.countP (·.succeeded)

theorem successes_append (earlier later : List DialRecord) :
    successes (earlier ++ later) = successes earlier + successes later :=
  List.countP_append

theorem DialRecord.succeeded_of_accepted {record : DialRecord}
    (accepted : record.failure = none) : record.succeeded = true := by
  rw [succeeded, accepted, Option.isNone_none]

theorem successes_of_succeeded {record : DialRecord} (succeeded : record.succeeded = true) :
    successes [record] = 1 := by
  rw [successes, List.countP_singleton, if_pos succeeded]

theorem successes_of_refused {record : DialRecord} {failure : String}
    (refused : record.failure = some failure) : successes [record] = 0 := by
  simp [successes, DialRecord.succeeded, refused]

/-- The stub of an invocation is that of the last dial before it, which succeeded. -/
structure Invocation.Latest (dials : List DialRecord) (invocation : Invocation) : Prop where
  made : invocation.dials ≤ dials.length
  connected : ∃ record, (dials.take invocation.dials).getLast? = some record ∧
    record.succeeded = true
  numbered : invocation.connection = successes (dials.take invocation.dials)

namespace Invocation.Latest

variable {dials : List DialRecord} {invocation : Invocation}

theorem append (latest : invocation.Latest dials) (more : List DialRecord) :
    invocation.Latest (dials ++ more) := by
  have same : (dials ++ more).take invocation.dials = dials.take invocation.dials :=
    List.take_append_of_le_length latest.made
  refine ⟨?_, ?_, ?_⟩
  · have made := latest.made
    simp only [List.length_append]
    omega
  · rw [same]
    exact latest.connected
  · rw [same]
    exact latest.numbered

/-- The connection is newer than every connection there was before an earlier dial. -/
theorem successes_lt (latest : invocation.Latest dials) {position : Nat}
    (earlier : position < invocation.dials) :
    successes (dials.take position) < invocation.connection := by
  obtain ⟨record, last, succeeded⟩ := latest.connected
  -- what was dialed before the position lies before the dial that made the connection
  obtain ⟨before, split⟩ := List.getLast?_eq_some_iff.mp last
  have length : before.length + 1 = invocation.dials := by
    have taken := congrArg List.length split
    have made := latest.made
    simp only [List.length_take, List.length_append, List.length_singleton] at taken
    omega
  have taken : dials.take position = before.take position := by
    have short : position ≤ before.length := by omega
    rw [← List.take_append_of_le_length short, ← split, List.take_take,
      Nat.min_eq_left (Nat.le_of_lt earlier)]
  have fewer : successes (before.take position) ≤ successes before :=
    (List.take_sublist position before).countP_le
  rw [latest.numbered, split, taken, successes_append, successes_of_succeeded succeeded]
  omega

theorem connection_le {later : Invocation} (first : invocation.Latest dials)
    (second : later.Latest dials) (ordered : invocation.dials ≤ later.dials) :
    invocation.connection ≤ later.connection := by
  rw [first.numbered, second.numbered]
  exact (List.take_sublist_take_left ordered).countP_le

theorem of_success {record : DialRecord} (succeeded : record.succeeded = true) :
    Latest (dials ++ [record]) ⟨successes dials + 1, (dials ++ [record]).length⟩ := by
  refine ⟨Nat.le_refl _, ⟨record, ?_, succeeded⟩, ?_⟩
  · rw [List.take_length, List.getLast?_concat]
  · rw [List.take_length, successes_append, successes_of_succeeded succeeded]

theorem connection_eq {connection : Nat}
    (latest : Latest dials ⟨connection, dials.length⟩) : connection = successes dials := by
  have numbered := latest.numbered
  rwa [List.take_length] at numbered

end Invocation.Latest

namespace Transport

/-- The history of a transport on which one client has dialed one target. -/
structure Traced (transport : Transport) (target : DialTarget) : Prop where
  generation : transport.generation = successes transport.dials
  targets : ∀ record ∈ transport.dials, record.target = target
  invocations : ∀ invocation ∈ transport.invocations, invocation.Latest transport.dials
  ordered : transport.invocations.Pairwise (·.dials ≤ ·.dials)

namespace Traced

variable {transport : Transport} {target : DialTarget}

theorem congr (traced : transport.Traced target) {other : Transport}
    (same : transport.SameHistory other) : other.Traced target := by
  refine ⟨?_, ?_, ?_, ?_⟩
  · rw [same.generation, same.dials]
    exact traced.generation
  · rw [same.dials]
    exact traced.targets
  · rw [same.dials, same.invocations]
    exact traced.invocations
  · rw [same.invocations]
    exact traced.ordered

theorem dial (traced : transport.Traced target) {other : Transport} {record : DialRecord}
    (dials : other.dials = transport.dials ++ [record]) (same : record.target = target)
    (generation : other.generation = transport.generation + successes [record])
    (invocations : other.invocations = transport.invocations) : other.Traced target := by
  refine ⟨?_, ?_, ?_, ?_⟩
  · rw [generation, dials, successes_append, traced.generation]
  · rw [dials]
    intro earlier member
    rcases List.mem_append.mp member with old | new
    · exact traced.targets earlier old
    · rw [List.mem_singleton.mp new]
      exact same
  · rw [dials, invocations]
    intro invocation member
    exact (traced.invocations invocation member).append [record]
  · rw [invocations]
    exact traced.ordered

theorem invoke (traced : transport.Traced target) {other : Transport} {connection : Nat}
    (latest : Invocation.Latest transport.dials ⟨connection, transport.dials.length⟩)
    (dials : other.dials = transport.dials) (generation : other.generation = transport.generation)
    (invocations : other.invocations =
      transport.invocations ++ [⟨connection, transport.dials.length⟩]) :
    other.Traced target := by
  refine ⟨?_, ?_, ?_, ?_⟩
  · rw [generation, dials]
    exact traced.generation
  · rw [dials]
    exact traced.targets
  · rw [dials, invocations]
    intro invocation member
    rcases List.mem_append.mp member with old | new
    · exact traced.invocations invocation old
    · rw [List.mem_singleton.mp new]
      exact latest
  · rw [invocations, List.pairwise_append]
    refine ⟨traced.ordered, List.pairwise_singleton _ _, ?_⟩
    intro earlier old later new
    rw [List.mem_singleton.mp new]
    exact (traced.invocations earlier old).made

end Traced

end Transport

namespace Client

/-- A client on the latest connection of a transport with one history, or on none. -/
structure Tracked (client : Client) (target : DialTarget) (transport : Transport) : Prop where
  traced : transport.Traced target
  own : client.target = target
  handles : ∀ live, client.live = some live → live.handle.target = target
  latest : ∀ live, client.live = some live →
    Invocation.Latest transport.dials ⟨live.stub.connection, transport.dials.length⟩

namespace Tracked

variable {client : Client} {target : DialTarget} {transport : Transport}

theorem congr (tracked : client.Tracked target transport) {other : Transport}
    (same : transport.SameHistory other) : client.Tracked target other := by
  refine ⟨tracked.traced.congr same, tracked.own, tracked.handles, ?_⟩
  rw [same.dials]
  exact tracked.latest

theorem note (tracked : client.Tracked target transport) (notice : Notice) :
    client.Tracked target (transport.note notice) :=
  tracked.congr ⟨rfl, rfl, rfl⟩

theorem count (tracked : client.Tracked target transport) (event : Count) :
    client.Tracked target (transport.count event) :=
  tracked.congr ⟨rfl, rfl, rfl⟩

theorem concluded (tracked : client.Tracked target transport) (answer : Except Status α) :
    client.Tracked target (client.concluded transport answer) :=
  tracked.congr (client.sameHistory_concluded transport answer)

theorem retried (tracked : client.Tracked target transport) (answer : Except Status α) :
    client.Tracked target (client.retried transport answer) :=
  tracked.congr (client.sameHistory_retried transport answer)

theorem named (tracked : client.Tracked target transport) (name : String) :
    (client.named name).Tracked target transport :=
  ⟨tracked.traced, tracked.own, tracked.handles, tracked.latest⟩

theorem redialTarget_eq (tracked : client.Tracked target transport) :
    client.redialTarget = target := by
  rw [redialTarget]
  cases connection : client.live with
  | some live => exact tracked.handles live connection
  | none => exact tracked.own

theorem invoked (tracked : client.Tracked target transport) {live : Live}
    (connected : client.live = some live) (call : Call α) (attempt : Nat) :
    client.Tracked target (invoked call attempt live.stub transport) where
  traced := tracked.traced.invoke (tracked.latest live connected)
    (dials_invoked call attempt live.stub transport)
    (generation_invoked call attempt live.stub transport)
    (invocations_invoked call attempt live.stub transport)
  own := tracked.own
  handles := tracked.handles
  latest := by
    rw [dials_invoked]
    exact tracked.latest

theorem failed (tracked : client.Tracked target transport) {live : Live}
    (connected : client.live = some live) (call : Call α) (status : Status) :
    client.Tracked target (client.failedTransport call live status transport) :=
  (tracked.invoked connected call 0).note _

theorem renewed (tracked : client.Tracked target transport)
    (accepted : transport.nextOutcome = none) :
    (client.renewed transport).Tracked target (client.renewedTransport transport) := by
  have succeeded : (client.redialRecord transport).succeeded = true :=
    DialRecord.succeeded_of_accepted accepted
  refine ⟨?_, tracked.own, ?_, ?_⟩
  · apply tracked.traced.dial (client.dials_renewedTransport transport) tracked.redialTarget_eq
    · rw [successes_of_succeeded succeeded, generation_renewedTransport]
    · exact client.invocations_renewedTransport transport
  · intro live connected
    cases connected
    exact tracked.redialTarget_eq
  · intro live connected
    cases connected
    simp only [nextLive, dials_renewedTransport, tracked.traced.generation]
    exact Invocation.Latest.of_success succeeded

theorem lost (tracked : client.Tracked target transport) {failure : String}
    (refused : transport.nextOutcome = some failure) :
    { client with live := none }.Tracked target (client.lostTransport failure transport) := by
  have unsuccessful : successes [client.redialRecord transport] = 0 :=
    successes_of_refused refused
  refine ⟨?_, tracked.own, ?_, ?_⟩
  · apply tracked.traced.dial (client.dials_lostTransport failure transport)
      tracked.redialTarget_eq
    · rw [unsuccessful, generation_lostTransport, Nat.add_zero]
    · exact client.invocations_lostTransport failure transport
  · intro live absent
    cases absent
  · intro live absent
    cases absent

end Tracked

theorem CallPath.tracked {client : Client} {call : Call α} {transport : Transport}
    {report : CallReport α} {target : DialTarget}
    (path : CallPath client call transport report)
    (tracked : client.Tracked target transport) :
    report.client.Tracked target report.transport := by
  cases path with
  | concluded live connected final =>
      exact (tracked.invoked connected call 0).concluded (call 0 live.stub).result
  | lost live status failure connected answered unavailable refused =>
      have failed := tracked.failed connected call status
      exact (failed.lost ((nextOutcome_failedTransport ..).trans refused)).count _
  | retried live status connected answered unavailable accepted =>
      have failed := tracked.failed connected call status
      have renewed := failed.renewed ((nextOutcome_failedTransport ..).trans accepted)
      have noted := renewed.note (.retryingCall client.name)
      have second := noted.invoked (live_renewed client _) call 1
      simp only [nextLive, generation_failedTransport] at second
      exact second.retried (call 1 ⟨transport.generation + 1⟩).result
  | refused failure disconnected refused =>
      exact (tracked.lost refused).count _
  | entered disconnected accepted =>
      have renewed := tracked.renewed accepted
      have first := renewed.invoked (live_renewed client transport) call 0
      exact first.concluded (call 0 ⟨transport.generation + 1⟩).result

/-- A second invocation is on the connection right after that of the first. -/
theorem CallPath.consecutive {client : Client} {call : Call α} {transport : Transport}
    {report : CallReport α} {target : DialTarget}
    (path : CallPath client call transport report)
    (tracked : client.Tracked target transport) {first second : Stub}
    (given : report.stubs = [first, second]) : second.connection = first.connection + 1 := by
  cases path with
  | retried live status connected answered unavailable accepted =>
      cases given
      rw [(tracked.latest live connected).connection_eq, tracked.traced.generation]
  | _ => cases given

end Client

namespace ClientRun

structure Tracked (run : ClientRun) (target : DialTarget) : Prop where
  traced : run.transport.Traced target
  client : ∀ client, run.client = some client → client.Tracked target run.transport

theorem Tracked.step {run after : ClientRun} {target : DialTarget}
    (tracked : run.Tracked target) (step : Step α run after) : after.Tracked target := by
  cases step with
  | called client call current =>
      have path := client.callPath call run.transport
      have after := path.tracked (tracked.client client current)
      refine ⟨after.traced, fun report same => ?_⟩
      cases same
      exact after
  | quiet client transport same unchanged =>
      refine ⟨tracked.traced.congr same, ?_⟩
      intro after current
      obtain ⟨before, name, earlier, rfl⟩ := unchanged after current
      exact ((tracked.client before earlier).congr same).named name

theorem tracked_started (name : String) (target : DialTarget)
    (script : List (Option String)) (fallback : Option String) (identities : Nat)
    (journal : Journal)
    (accepted : (Transport.unused script fallback identities journal).nextOutcome = none) :
    (started name target (.unused script fallback identities journal)).Tracked target := by
  have unused : (Transport.unused script fallback identities journal).Traced target :=
    ⟨rfl, fun _ absent => (nomatch absent), fun _ absent => (nomatch absent), List.Pairwise.nil⟩
  let record : DialRecord := ⟨target, [], [],
    (Transport.unused script fallback identities journal).nextOutcome, journal.notices.length⟩
  have succeeded : record.succeeded = true := DialRecord.succeeded_of_accepted accepted
  have traced :
      (started name target (.unused script fallback identities journal)).transport.Traced
        target := by
    have generation := congrArg (0 + ·) (successes_of_succeeded succeeded)
    exact unused.dial rfl rfl generation.symm rfl
  refine ⟨traced, ?_⟩
  intro client current
  cases current
  refine ⟨traced, rfl, ?_, ?_⟩
  · intro live connected
    cases connected
    rfl
  · intro live connected
    cases connected
    have latest : Invocation.Latest ([] ++ [_]) ⟨successes [] + 1, _⟩ :=
      Invocation.Latest.of_success succeeded
    exact latest

theorem Tracked.acts {run : ClientRun} {target : DialTarget} (tracked : run.Tracked target)
    (actions : List (ClientAction α)) : (run.acts actions).Tracked target :=
  acts_induction (P := (·.Tracked target))
    (fun run action tracked => tracked.step (run.step_act action)) tracked actions

/-- Every invocation runs on the connection of the dial just before, and all dials are to
    one target. -/
structure InvokesLatest (α : Type) (target : DialTarget) (run : ClientRun) : Prop where
  latest : ∀ invocation ∈ run.transport.invocations, invocation.Latest run.transport.dials
  /-- An invocation is on no earlier connection than those before it. -/
  ascending : run.transport.invocations.Pairwise (·.connection ≤ ·.connection)
  /-- The stub of the client is the one that its next invocation may have. -/
  current : ∀ live, run.live? = some live →
    Invocation.Latest run.transport.dials ⟨live.stub.connection, run.transport.dials.length⟩
  /-- A call adds the invocations of the stubs it was given, two of them in a row. -/
  called : ∀ (call : Call α) answer, (run.act (.call call)).1 = some answer →
    (run.act (.call call)).2.transport.invocations.map (·.connection) =
        run.transport.invocations.map (·.connection) ++ answer.stubs.map (·.connection) ∧
      ∀ first second, answer.stubs = [first, second] →
        second.connection = first.connection + 1
  /-- Once there is another dial, the connection of the client is never invoked again. -/
  abandoned : ∀ live, run.live? = some live → ∀ (more : List (ClientAction α)),
    ∀ invocation ∈ (run.acts more).transport.invocations,
      run.transport.dials.length < invocation.dials →
        live.stub.connection < invocation.connection
  targets : ∀ record ∈ run.transport.dials, record.target = target

theorem Tracked.latest {run : ClientRun} {target : DialTarget} (tracked : run.Tracked target)
    {live : Live} (connected : run.live? = some live) :
    Invocation.Latest run.transport.dials
      ⟨live.stub.connection, run.transport.dials.length⟩ := by
  obtain ⟨client, current, connected⟩ := Option.bind_eq_some_iff.mp connected
  exact (tracked.client client current).latest live connected

theorem Tracked.invokesLatest {run : ClientRun} {target : DialTarget}
    (tracked : run.Tracked target) : run.InvokesLatest α target where
  latest := tracked.traced.invocations
  ascending := by
    refine List.Pairwise.imp_of_mem ?_ tracked.traced.ordered
    intro first second earlier later ordered
    exact (tracked.traced.invocations first earlier).connection_le
      (tracked.traced.invocations second later) ordered
  current live connected := tracked.latest connected
  called call answer answered := by
    simp only [act] at answered ⊢
    cases current : run.client with
    | none => simp [current] at answered
    | some client =>
        simp only [current, Option.some.injEq] at answered ⊢
        subst answered
        have path := client.callPath call run.transport
        obtain ⟨stubs, dials, effect, -, -⟩ := path.bounded
        refine ⟨?_, fun first second given => ?_⟩
        · rw [effect.given, effect.invoked]
        · exact path.consecutive (tracked.client client current) given
  abandoned live connected more invocation member later := by
    obtain ⟨dials, grown⟩ := run.prefix_dials_acts more
    have newer := ((tracked.acts more).traced.invocations invocation member).successes_lt later
    -- the dials made so far are a prefix of those that the later invocation looks back on
    rw [← grown, List.take_left] at newer
    rw [(tracked.latest connected).connection_eq]
    exact newer
  targets := tracked.traced.targets

/-- From its construction on, a client invokes only stubs on the connection of its last
    dial, which succeeded, and it dials only the target it was constructed with. -/
theorem acts_invokesLatest {name : String} {target : DialTarget}
    {script : List (Option String)} {fallback : Option String} {identities : Nat}
    {journal : Journal} {run : ClientRun} {after : Transport}
    (success : start name target (.unused script fallback identities journal) =
      (.ok run, after))
    (actions : List (ClientAction α)) : (run.acts actions).InvokesLatest α target := by
  obtain ⟨accepted, rfl⟩ := eq_started success
  have tracked := tracked_started name target script fallback identities journal accepted
  exact (tracked.acts actions).invokesLatest

/-- A client that loses its connection, fails to dial and then reconnects. -/
theorem invokesLatest_lost_entered :
    let target := DialTarget.ofAddress "inventory:50051"
    let transport := Transport.unused [none, some "refused"] none 0 {}
    let run := started "inventory" target transport
    start "inventory" target transport = (.ok run, run.transport) ∧
      (run.acts [.call fun _ _ => (⟨.error ⟨.unavailable, "gone"⟩, false⟩ : Reply Unit),
        .call fun _ _ => ⟨.ok (), false⟩]).InvokesLatest Unit target := by
  intro target transport run
  have success : start "inventory" target transport = (.ok run, run.transport) :=
    start_eq "inventory" target transport
  exact ⟨success, acts_invokesLatest success _⟩

end ClientRun

end RpcTransport
