import RpcTransport.Proofs.Client.CallRecord
import RpcTransport.Proofs.Observe.Totals

/-! # Counters account for calls

The counters of a run tell how often it dialed and how often its calls ran, for any clients
that are chosen by the names they had at the time.
-/

namespace RpcTransport

variable {α : Type}

structure Balanced (ended : CallOutcome → Nat) (reconnected : Bool → Nat)
    (records : List CallRecord) : Prop where
  /-- Every call has ended in one way. -/
  counted : (CallOutcome.all.map ended).sum = records.length
  /-- Every dial was a reconnect. -/
  dialed : (records.map (·.dials.length)).sum = reconnected true + reconnected false
  /-- Every failed dial ended its call. -/
  lost : reconnected false = ended .dialFailed
  /-- The calls with a second answer are those that ran twice. -/
  recovered : ended .recoveredOk + ended .recoveredFailed = records.countP (·.runs == 2)
  /-- All other reconnects were those of calls that found no connection. -/
  reentered : reconnected true =
    ended .recoveredOk + ended .recoveredFailed + records.countP (·.connects)
  invoked : (records.map (·.runs)).sum =
    ended .ok + ended .failed + 2 * (ended .recoveredOk + ended .recoveredFailed) +
      records.countP (·.disconnects)

namespace Balanced

theorem nil : Balanced (fun _ => 0) (fun _ => 0) [] :=
  ⟨rfl, rfl, rfl, rfl, rfl, rfl⟩

theorem append {ended more : CallOutcome → Nat} {reconnected again : Bool → Nat}
    {records others : List CallRecord} (first : Balanced ended reconnected records)
    (second : Balanced more again others) :
    Balanced (fun outcome => ended outcome + more outcome)
      (fun succeeded => reconnected succeeded + again succeeded) (records ++ others) := by
  obtain ⟨counted, dialed, lost, recovered, reentered, invoked⟩ := first
  obtain ⟨counted', dialed', lost', recovered', reentered', invoked'⟩ := second
  simp only [CallOutcome.all, List.map_cons, List.map_nil, List.sum_cons, List.sum_nil]
    at counted counted'
  constructor
  · simp only [CallOutcome.all, List.map_cons, List.map_nil, List.sum_cons, List.sum_nil,
      List.length_append]
    omega
  · rw [List.map_append, List.sum_append_nat]
    omega
  · omega
  · rw [List.countP_append]
    omega
  · rw [List.countP_append]
    omega
  · rw [List.map_append, List.sum_append_nat, List.countP_append]
    omega

end Balanced

namespace CallRecord

/-- The counts of a call agree with it, if its client is among the chosen ones; otherwise
    nothing is counted for them. -/
theorem Way.balanced {record : CallRecord} (way : record.Way) (clients : String → Bool) :
    Balanced (fun outcome => record.counts.countP (·.isCall clients outcome))
      (fun succeeded => record.counts.countP (·.isReconnect clients succeeded))
      ([record].filter (clients ·.name)) := by
  cases chosen : clients record.name with
  | false =>
      have absent : [record].filter (clients ·.name) = [] := by simp [chosen]
      rw [absent]
      cases way <;> simp_all [Count.isCall, Count.isReconnect, Balanced.nil]
  | true =>
      have present : [record].filter (clients ·.name) = [record] := by simp [chosen]
      rw [present]
      -- in three ways there are two outcomes, which are counted apart
      obtain ⟨outcome, rfl | rfl, state, dials, runs, counts⟩ |
        ⟨failure, state, dials, runs, counts⟩ |
        ⟨outcome, rfl | rfl, state, dials, runs, counts⟩ |
        ⟨failure, state, dials, runs, counts⟩ |
        ⟨outcome, rfl | rfl, state, dials, runs, counts⟩ := way
      all_goals
        constructor <;>
          simp [CallOutcome.all, Count.isCall, Count.isReconnect, connects, disconnects, outcomes,
            chosen, state, dials, runs, counts]

theorem balanced_of_ways {records : List CallRecord} (ways : ∀ record ∈ records, record.Way)
    (clients : String → Bool) :
    Balanced
      (fun outcome => (records.flatMap (·.counts)).countP (·.isCall clients outcome))
      (fun succeeded => (records.flatMap (·.counts)).countP (·.isReconnect clients succeeded))
      (records.filter (clients ·.name)) := by
  induction records with
  | nil => exact .nil
  | cons record rest ih =>
      have first := (ways record List.mem_cons_self).balanced clients
      have second := ih fun other member => ways other (List.mem_cons_of_mem record member)
      have both := first.append second
      simp only [← List.countP_append, ← List.filter_append] at both
      exact both

end CallRecord

/-- Between two transports lie some calls, and nothing else that dials, runs or counts. -/
structure Transport.Spans (before : Transport) (records : List CallRecord) (after : Transport) :
    Prop where
  counts : after.journal.counts = before.journal.counts ++ records.flatMap (·.counts)
  dials : after.dials.length = before.dials.length + (records.map (·.dials.length)).sum
  runs : after.invocations.length = before.invocations.length + (records.map (·.runs)).sum

namespace Transport.Spans

theorem of_sameHistory {before after : Transport} (same : before.SameHistory after)
    (counts : after.journal.counts = before.journal.counts) : Spans before [] after :=
  ⟨by simp [counts], by simp [same.dials], by simp [same.invocations]⟩

theorem trans {before between after : Transport} {records others : List CallRecord}
    (first : Spans before records between) (second : Spans between others after) :
    Spans before (records ++ others) after := by
  constructor
  · rw [second.counts, first.counts, List.flatMap_append, List.append_assoc]
  · rw [second.dials, first.dials, List.map_append, List.sum_append_nat, Nat.add_assoc]
  · rw [second.runs, first.runs, List.map_append, List.sum_append_nat, Nat.add_assoc]

end Transport.Spans

namespace Client

theorem CallPath.prefix_counts {client : Client} {call : Call α} {transport : Transport}
    {report : CallReport α} (path : CallPath client call transport report) :
    transport.journal.counts <+: report.transport.journal.counts := by
  cases path <;> simp

theorem CallPath.spans {client : Client} {call : Call α} {transport : Transport}
    {report : CallReport α} (path : CallPath client call transport report) :
    transport.Spans [⟨client, transport, report.transport⟩] report.transport := by
  obtain ⟨stubs, dials, effect, -⟩ := path.bounded
  obtain ⟨more, counts⟩ := path.prefix_counts
  have dialed := congrArg List.length effect.dialed
  have invoked := congrArg List.length effect.invoked
  simp only [List.length_map, List.length_append] at dialed invoked
  constructor
  · simp [CallRecord.counts, ← counts]
  · simp [CallRecord.dials_eq effect, dialed]
  · simp [CallRecord.runs_eq effect, invoked]

end Client

namespace Client

theorem counts_close (client : Client) (transport : Transport) :
    (client.close transport).journal.counts = transport.journal.counts := by
  simp only [close, release]
  cases client.live <;> rfl

end Client

namespace ClientRun

theorem spans_act (run : ClientRun) (action : ClientAction α) :
    run.transport.Spans (run.record action) (run.act action).2.transport := by
  have deed := run.deed_act action
  generalize (run.act action).2 = after at deed
  cases deed with
  | called client call current recorded =>
      rw [recorded]
      exact (client.callPath call run.transport).spans
  | closed client current unrecorded =>
      rw [unrecorded]
      exact .of_sameHistory (.close _ client) (client.counts_close _)
  | idle after idle same unrecorded =>
      rw [unrecorded]
      exact .of_sameHistory idle.history (congrArg (·.counts) idle.journal)

theorem spans_acts (run : ClientRun) (actions : List (ClientAction α)) :
    run.transport.Spans (run.calls actions) (run.acts actions).transport := by
  induction actions generalizing run with
  | nil => exact .of_sameHistory ⟨rfl, rfl, rfl⟩ rfl
  | cons action rest ih => exact (run.spans_act action).trans (ih _)

theorem way_of_mem {run : ClientRun} {actions : List (ClientAction α)} {record : CallRecord}
    (member : record ∈ run.calls actions) : record.Way := by
  obtain ⟨client, before, after⟩ := record
  obtain ⟨call, report, path, rfl⟩ := path_of_mem member
  exact .of_path path

end ClientRun

namespace Journal

def callsSince (before after : Journal) (clients : String → Bool) (outcome : CallOutcome) :
    Nat :=
  after.calls clients outcome - before.calls clients outcome

def reconnectsSince (before after : Journal) (clients : String → Bool) (succeeded : Bool) :
    Nat :=
  after.reconnects clients succeeded - before.reconnects clients succeeded

section Growth

variable {before after : Journal} {more : List Count}
  (grown : after.counts = before.counts ++ more) (clients : String → Bool)

include grown

theorem callsSince_eq (outcome : CallOutcome) :
    before.callsSince after clients outcome = more.countP (·.isCall clients outcome) := by
  rw [callsSince, calls_eq, calls_eq, grown, List.countP_append, Nat.add_sub_cancel_left]

theorem reconnectsSince_eq (succeeded : Bool) :
    before.reconnectsSince after clients succeeded =
      more.countP (·.isReconnect clients succeeded) := by
  rw [reconnectsSince, reconnects_eq, reconnects_eq, grown, List.countP_append,
    Nat.add_sub_cancel_left]

end Growth

end Journal

namespace ClientRun

structure Counted (run : ClientRun) (actions : List (ClientAction α)) : Prop where
  /-- Every count, every dial and every invocation is that of a call. -/
  spans : run.transport.Spans (run.calls actions) (run.acts actions).transport
  /-- Every call is counted once, under the name in force. -/
  once : ∀ record ∈ run.calls actions, ∃ outcome, record.outcomes = [(record.name, outcome)]
  /-- For any clients, chosen by the name in force, counters and calls agree. -/
  balanced : ∀ clients : String → Bool,
    Balanced
      (run.transport.journal.callsSince (run.acts actions).transport.journal clients)
      (run.transport.journal.reconnectsSince (run.acts actions).transport.journal clients)
      ((run.calls actions).filter (clients ·.name))

theorem counted_acts (run : ClientRun) (actions : List (ClientAction α)) :
    run.Counted actions := by
  have spans := run.spans_acts actions
  have ways : ∀ record ∈ run.calls actions, record.Way := fun _ member => way_of_mem member
  refine ⟨spans, fun record member => (ways record member).once, ?_⟩
  intro clients
  have balanced := CallRecord.balanced_of_ways ways clients
  have calls := funext (Journal.callsSince_eq spans.counts clients)
  have reconnects := funext (Journal.reconnectsSince_eq spans.counts clients)
  rw [calls, reconnects]
  exact balanced

/-- Construction counts nothing, whether or not it succeeds, and from there on the counters
    account for every dial, every invocation and every call. -/
theorem start_counted (α : Type) (name : String) (target : DialTarget)
    (transport : Transport) :
    match start name target transport with
    | (.error _, after) => after.journal.counts = transport.journal.counts
    | (.ok run, _) => run.transport.journal.counts = transport.journal.counts ∧
        ∀ actions : List (ClientAction α), run.Counted actions := by
  rw [start_eq]
  cases transport.nextOutcome with
  | some failure => rfl
  | none => exact ⟨rfl, fun actions => counted_acts _ actions⟩

end ClientRun

end RpcTransport
