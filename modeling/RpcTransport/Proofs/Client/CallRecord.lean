import RpcTransport.Proofs.Client.Reached
import RpcTransport.Proofs.Client.Recovery

/-! # Records of calls

What a call of a run leaves behind, read off the transport before and behind it: its dials,
how often it ran, and what was counted. Every way a call can go leaves one count of the call,
and one of each reconnect.
-/

namespace RpcTransport

variable {α : Type}

namespace Client

def conclusion : Except Status α → CallOutcome
  | .ok _ => .ok
  | .error _ => .failed

def recovery : Except Status α → CallOutcome
  | .ok _ => .recoveredOk
  | .error _ => .recoveredFailed

section Counts

variable (client : Client) (call : Call α) (stub second : Stub) (stubs : List Stub)
  (live : Live) (status : Status) (failure : String) (attempt : Nat)
  (answer : Except Status α) (transport : Transport)

@[simp] theorem counts_beforeDial :
    (client.beforeDial transport).journal.counts = transport.journal.counts := by
  simp only [beforeDial, vacate]
  cases client.live <;> rfl

@[simp] theorem counts_renewedTransport :
    (client.renewedTransport transport).journal.counts =
      transport.journal.counts ++ [.reconnect client.name true] := by
  rw [← counts_beforeDial client transport]
  rfl

@[simp] theorem counts_lostTransport :
    (client.lostTransport failure transport).journal.counts =
      transport.journal.counts ++ [.reconnect client.name false] := by
  rw [← counts_beforeDial client transport]
  rfl

@[simp] theorem counts_invoked :
    (invoked call attempt stub transport).journal.counts = transport.journal.counts := by
  simp only [invoked, invoke]
  split <;> rfl

@[simp] theorem counts_failedTransport :
    (client.failedTransport call live status transport).journal.counts =
      transport.journal.counts :=
  counts_invoked call live.stub 0 transport

@[simp] theorem counts_concluded :
    (client.concluded transport answer).journal.counts =
      transport.journal.counts ++ [.call client.name (conclusion answer)] := by
  cases answer with
  | ok value => rfl
  | error status =>
      simp only [concluded]
      split <;> rfl

@[simp] theorem counts_retried :
    (client.retried transport answer).journal.counts =
      transport.journal.counts ++ [.call client.name (recovery answer)] := by
  cases answer <;> rfl

@[simp] theorem counts_concludedReport :
    (client.concludedReport call stub transport).transport.journal.counts =
      transport.journal.counts ++ [.call client.name (conclusion (call 0 stub).result)] := by
  simp [concludedReport]

@[simp] theorem counts_lostReport :
    (client.lostReport stubs failure transport : CallReport α).transport.journal.counts =
      transport.journal.counts ++
        [.reconnect client.name false, .call client.name .dialFailed] := by
  simp [lostReport, Transport.count]

@[simp] theorem counts_retriedReport :
    (client.retriedReport call stub second transport).transport.journal.counts =
      transport.journal.counts ++ [.call client.name (recovery (call 1 second).result)] := by
  simp [retriedReport, Transport.note]

end Counts

end Client

namespace Transport

/-- Between two transports, references may have been taken or let go of, and the outcomes of coming
    dials may have changed, but nothing has happened. -/
structure Idle (before after : Transport) : Prop where
  history : before.SameHistory after
  journal : after.journal = before.journal
  identities : after.identities = before.identities

namespace Idle

variable (transport : Transport)

theorem refl : transport.Idle transport :=
  ⟨⟨rfl, rfl, rfl⟩, rfl, rfl⟩

theorem letGo (connection : Nat) : transport.Idle (transport.letGo connection) := by
  refine ⟨.letGo transport connection, ?_, ?_⟩
  · simp only [Transport.letGo]
    split <;> rfl
  · simp only [Transport.letGo]
    split <;> rfl

theorem releaseAll (connections : List Nat) :
    transport.Idle (transport.releaseAll connections) := by
  induction connections generalizing transport with
  | nil => exact .refl transport
  | cons connection rest ih =>
      obtain ⟨history, journal, identities⟩ := ih (transport.release connection)
      exact ⟨.releaseAll transport (connection :: rest), journal, identities⟩

theorem letGoAll : transport.Idle transport.letGoAll := by
  obtain ⟨-, journal, identities⟩ := releaseAll { transport with kept := [] } transport.kept
  exact ⟨.letGoAll transport, journal, identities⟩

end Idle

end Transport

/-- A call of a run: the client that made it, and the transport before and behind it. -/
structure CallRecord where
  client : Client
  before : Transport
  after : Transport

namespace CallRecord

def name (record : CallRecord) : String := record.client.name

def connected (record : CallRecord) : Bool := record.client.isConnected

def dials (record : CallRecord) : List (Option String) :=
  (record.after.dials.map (·.failure)).drop record.before.dials.length

def runs (record : CallRecord) : Nat :=
  record.after.invocations.length - record.before.invocations.length

def counts (record : CallRecord) : List Count :=
  record.after.journal.counts.drop record.before.journal.counts.length

def outcomes (record : CallRecord) : List (String × CallOutcome) :=
  record.counts.filterMap fun
    | .call client outcome => some (client, outcome)
    | _ => none

end CallRecord

namespace ClientRun

def record (run : ClientRun) (action : ClientAction α) : List CallRecord :=
  match action, run.client with
  | .call call, some client =>
    [⟨client, run.transport, (client.call call run.transport).transport⟩]
  | _, _ => []

def calls (run : ClientRun) : List (ClientAction α) → List CallRecord
  | [] => []
  | action :: rest => run.record action ++ (run.act action).2.calls rest

/-- What an action of a run does: a call is made, the client is closed, or nothing happens to it
    but that it may get another name. -/
inductive Deed (run : ClientRun) (action : ClientAction α) : ClientRun → Prop where
  | called (client : Client) (call : Call α) (current : run.client = some client)
      (recorded : run.record action =
        [⟨client, run.transport, (client.call call run.transport).transport⟩]) :
      Deed run action ⟨some (client.call call run.transport).client,
        (client.call call run.transport).transport⟩
  | closed (client : Client) (current : run.client = some client)
      (unrecorded : run.record action = []) :
      Deed run action ⟨none, client.close run.transport⟩
  | idle (after : ClientRun) (idle : run.transport.Idle after.transport)
      (same : after.live? = run.live?) (unrecorded : run.record action = []) :
      Deed run action after

theorem deed_act (run : ClientRun) (action : ClientAction α) :
    run.Deed action (run.act action).2 := by
  cases action with
  | call call =>
      simp only [act]
      cases current : run.client with
      | none => exact .idle run (.refl _) rfl (by simp [record, current])
      | some client => exact .called client call current (by simp [record, current])
  | rename name =>
      refine .idle _ (.refl _) ?_ rfl
      simp only [act, live?]
      cases run.client <;> rfl
  | close =>
      simp only [act]
      cases current : run.client with
      | none => exact .idle run (.refl _) rfl rfl
      | some client => exact .closed client current rfl
  | keepStub =>
      simp only [act]
      split
      · exact .idle run (.refl _) rfl rfl
      · exact .idle _ ⟨⟨rfl, rfl, rfl⟩, rfl, rfl⟩ rfl rfl
  | releaseStub connection => exact .idle _ (.letGo _ connection) rfl rfl
  | releaseStubs => exact .idle _ (.letGoAll _) rfl rfl
  | script outcomes => exact .idle _ ⟨⟨rfl, rfl, rfl⟩, rfl, rfl⟩ rfl rfl
  | fallback outcome => exact .idle _ ⟨⟨rfl, rfl, rfl⟩, rfl, rfl⟩ rfl rfl

theorem path_of_mem {run : ClientRun} {actions : List (ClientAction α)} {record : CallRecord}
    (member : record ∈ run.calls actions) :
    ∃ (call : Call α) (report : CallReport α),
      Client.CallPath record.client call record.before report ∧
        record.after = report.transport := by
  induction actions generalizing run with
  | nil => cases member
  | cons action rest ih =>
      rcases List.mem_append.mp member with now | later
      · have deed := run.deed_act action
        generalize (run.act action).2 = after at deed
        cases deed with
        | called client call current recorded =>
            rw [recorded, List.mem_singleton] at now
            subst now
            exact ⟨call, _, client.callPath call run.transport, rfl⟩
        | closed client current unrecorded =>
            rw [unrecorded] at now
            cases now
        | idle after idle same unrecorded =>
            rw [unrecorded] at now
            cases now
      · exact ih later

end ClientRun

namespace CallRecord

/-- What the five ways of a call leave on record. -/
inductive Way (record : CallRecord) : Prop where
  | concluded (outcome : CallOutcome) (final : outcome = .ok ∨ outcome = .failed)
      (connected : record.connected = true) (dials : record.dials = [])
      (runs : record.runs = 1) (counts : record.counts = [.call record.name outcome])
  | lost (failure : String) (connected : record.connected = true)
      (dials : record.dials = [some failure]) (runs : record.runs = 1)
      (counts : record.counts = [.reconnect record.name false, .call record.name .dialFailed])
  | retried (outcome : CallOutcome)
      (recovered : outcome = .recoveredOk ∨ outcome = .recoveredFailed)
      (connected : record.connected = true) (dials : record.dials = [none])
      (runs : record.runs = 2)
      (counts : record.counts = [.reconnect record.name true, .call record.name outcome])
  | refused (failure : String) (disconnected : record.connected = false)
      (dials : record.dials = [some failure]) (runs : record.runs = 0)
      (counts : record.counts = [.reconnect record.name false, .call record.name .dialFailed])
  | entered (outcome : CallOutcome) (final : outcome = .ok ∨ outcome = .failed)
      (disconnected : record.connected = false) (dials : record.dials = [none])
      (runs : record.runs = 1)
      (counts : record.counts = [.reconnect record.name true, .call record.name outcome])

theorem conclusion_cases (answer : Except Status α) :
    Client.conclusion answer = .ok ∨ Client.conclusion answer = .failed := by
  cases answer with
  | ok value => exact .inl rfl
  | error status => exact .inr rfl

theorem recovery_cases (answer : Except Status α) :
    Client.recovery answer = .recoveredOk ∨ Client.recovery answer = .recoveredFailed := by
  cases answer with
  | ok value => exact .inl rfl
  | error status => exact .inr rfl

theorem dials_eq {client : Client} {transport : Transport} {report : CallReport α}
    {stubs : List Stub} {dials : List (Option String)}
    (effect : Client.Effect transport report stubs dials) :
    CallRecord.dials ⟨client, transport, report.transport⟩ = dials := by
  simp [CallRecord.dials, effect.dialed]

theorem runs_eq {client : Client} {transport : Transport} {report : CallReport α}
    {stubs : List Stub} {dials : List (Option String)}
    (effect : Client.Effect transport report stubs dials) :
    CallRecord.runs ⟨client, transport, report.transport⟩ = stubs.length := by
  have more := congrArg List.length effect.invoked
  simp only [List.length_map, List.length_append] at more
  simp only [CallRecord.runs, more]
  omega

theorem Way.of_path {client : Client} {call : Call α} {transport : Transport}
    {report : CallReport α} (path : Client.CallPath client call transport report) :
    Way ⟨client, transport, report.transport⟩ := by
  cases path with
  | concluded live connected final =>
      have effect := Client.effect_concludedReport client call live.stub transport
      exact .concluded _ (conclusion_cases (call 0 live.stub).result)
        (by simp [CallRecord.connected, Client.isConnected, connected]) (dials_eq effect)
        (runs_eq effect) (by simp [counts, name])
  | lost live status failure connected answered unavailable refused =>
      have effect := Client.effect_lost client call live status refused
      exact .lost failure (by simp [CallRecord.connected, Client.isConnected, connected])
        (dials_eq effect) (runs_eq effect) (by simp [counts, name])
  | retried live status connected answered unavailable accepted =>
      have effect := Client.effect_retried client call live status accepted
      exact .retried _ (recovery_cases (call 1 ⟨transport.generation + 1⟩).result)
        (by simp [CallRecord.connected, Client.isConnected, connected]) (dials_eq effect)
        (runs_eq effect) (by simp [counts, name, Client.renewed])
  | refused failure disconnected refused =>
      have effect : Client.Effect transport
          (client.lostReport [] failure transport : CallReport α) [] [some failure] :=
        Client.effect_refused client refused
      exact .refused failure
        (by simp [CallRecord.connected, Client.isConnected, disconnected]) (dials_eq effect)
        (runs_eq effect) (by simp [counts, name])
  | entered disconnected accepted =>
      have effect := Client.effect_entered client call accepted
      exact .entered _ (conclusion_cases (call 0 ⟨transport.generation + 1⟩).result)
        (by simp [CallRecord.connected, Client.isConnected, disconnected]) (dials_eq effect)
        (runs_eq effect) (by simp [counts, name, Client.renewed])

def connects (record : CallRecord) : Bool :=
  !record.connected && record.dials.contains none

def disconnects (record : CallRecord) : Bool :=
  record.connected && record.outcomes.contains (record.name, .dialFailed)

/-- A call adds to the counter of calls once, under the name in force. -/
theorem Way.once {record : CallRecord} (way : record.Way) :
    ∃ outcome, record.outcomes = [(record.name, outcome)] := by
  cases way with
  | concluded outcome final connected dials runs counts =>
      exact ⟨outcome, by simp [outcomes, counts]⟩
  | lost failure connected dials runs counts =>
      exact ⟨.dialFailed, by simp [outcomes, counts]⟩
  | retried outcome recovered connected dials runs counts =>
      exact ⟨outcome, by simp [outcomes, counts]⟩
  | refused failure disconnected dials runs counts =>
      exact ⟨.dialFailed, by simp [outcomes, counts]⟩
  | entered outcome final disconnected dials runs counts =>
      exact ⟨outcome, by simp [outcomes, counts]⟩

end CallRecord

end RpcTransport
