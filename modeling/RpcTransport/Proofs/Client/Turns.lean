import RpcTransport.Proofs.Client.CallRecord
import RpcTransport.Proofs.Client.Notices

/-! # Connections take turns

A client has one connection at a time. Its notices tell of connections that are established and
closed one after the other, each with a larger identity than the one before, and whenever the
client dials, the last one has been closed.
-/

namespace RpcTransport

variable {α : Type}

inductive ConnectionEvent where
  | established (id : ConnectionId)
  | closed (id : ConnectionId)
  deriving Repr, DecidableEq

def Notice.connectionEvent? : Notice → Option ConnectionEvent
  | .connectionEstablished id _ => some (.established id)
  | .connectionClosed id _ => some (.closed id)
  | _ => none

def connectionEvents (notices : List Notice) : List ConnectionEvent :=
  notices.filterMap Notice.connectionEvent?

/-- Connections established and closed one after the other, and one that is open, if any. -/
def turns (ids : List ConnectionId) (current : Option ConnectionId) : List ConnectionEvent :=
  (ids.flatMap fun id => [.established id, .closed id]) ++ current.toList.map .established

theorem turns_closed (ids : List ConnectionId) (current : Option ConnectionId) :
    turns ids current ++ current.toList.map .closed = turns (ids ++ current.toList) none := by
  cases current <;> simp [turns]

theorem turns_established (ids : List ConnectionId) (next : Option ConnectionId) :
    turns ids none ++ next.toList.map .established = turns ids next := by
  simp [turns]

theorem connectionEvents_append (sooner later : List Notice) :
    connectionEvents (sooner ++ later) = connectionEvents sooner ++ connectionEvents later :=
  List.filterMap_append

theorem connectionEvents_remarks {notices : List Notice}
    (remarks : ∀ notice ∈ notices, notice.isRemark = true) : connectionEvents notices = [] := by
  refine List.filterMap_eq_nil_iff.mpr fun notice member => ?_
  have remark := remarks notice member
  cases notice <;> first | rfl | cases remark

namespace Client

section Events

variable (client : Client)

theorem connectionEvents_before :
    connectionEvents client.beforeNotices = client.connectionId?.toList.map .closed := by
  simp only [beforeNotices, departure, connectionId?]
  cases client.live <;> rfl

theorem connectionEvents_close :
    connectionEvents client.closingNotices = client.connectionId?.toList.map .closed := by
  simp only [closingNotices, connectionId?]
  cases client.live <;> rfl

end Events

end Client

namespace Transport

/-- What is reported between two transports tells of no connection, and nothing is dialed. -/
structure Silent (before : Transport) (more : List Notice) (after : Transport) : Prop where
  notices : after.journal.notices = before.journal.notices ++ more
  silent : connectionEvents more = []
  dials : after.dials = before.dials
  identities : after.identities = before.identities

/-- What becomes of the connection of a client between two transports. -/
inductive Turn (before : Transport) (was : Option ConnectionId) (after : Transport) :
    Option ConnectionId → Prop where
  | kept (more : List Notice) (silent : before.Silent more after) : Turn before was after was
  | closed (more : List Notice)
      (notices : after.journal.notices = before.journal.notices ++ more)
      (closes : connectionEvents more = was.toList.map .closed)
      (dials : after.dials = before.dials)
      (identities : after.identities = before.identities) : Turn before was after none
  | redialed (record : DialRecord) (sooner later : List Notice) (now : Option ConnectionId)
      (notices : after.journal.notices = before.journal.notices ++ (sooner ++ later))
      (closes : connectionEvents sooner = was.toList.map .closed)
      (dials : after.dials = before.dials ++ [record])
      (reported : record.reported = (before.journal.notices ++ sooner).length)
      (opens : connectionEvents later = now.toList.map .established)
      (grown : before.identities ≤ after.identities)
      (fresh : ∀ id ∈ now, before.identities < id.number ∧ id.number ≤ after.identities) :
      Turn before was after now

namespace Turn

variable {first second third : Transport} {was now : Option ConnectionId} {more : List Notice}

theorem of_silent (silent : first.Silent more second) (turn : second.Turn was third now) :
    first.Turn was third now := by
  cases turn with
  | kept others rest =>
      refine .kept (more ++ others) ⟨?_, ?_, ?_, ?_⟩
      · rw [rest.notices, silent.notices, List.append_assoc]
      · rw [connectionEvents_append, silent.silent, rest.silent, List.append_nil]
      · rw [rest.dials, silent.dials]
      · rw [rest.identities, silent.identities]
  | closed others notices closes dials identities =>
      refine .closed (more ++ others) ?_ ?_ ?_ ?_
      · rw [notices, silent.notices, List.append_assoc]
      · rw [connectionEvents_append, silent.silent, closes, List.nil_append]
      · rw [dials, silent.dials]
      · rw [identities, silent.identities]
  | redialed record sooner later now notices closes dials reported opens grown fresh =>
      rw [silent.identities] at grown fresh
      refine .redialed record (more ++ sooner) later now ?_ ?_ ?_ ?_ opens grown fresh
      · rw [notices, silent.notices, List.append_assoc, List.append_assoc]
      · rw [connectionEvents_append, silent.silent, closes, List.nil_append]
      · rw [dials, silent.dials]
      · rw [reported, silent.notices, List.append_assoc]

theorem silent (turn : first.Turn was second now) (silent : second.Silent more third) :
    first.Turn was third now := by
  cases turn with
  | kept others rest =>
      refine .kept (others ++ more) ⟨?_, ?_, ?_, ?_⟩
      · rw [silent.notices, rest.notices, List.append_assoc]
      · rw [connectionEvents_append, silent.silent, rest.silent, List.append_nil]
      · rw [silent.dials, rest.dials]
      · rw [silent.identities, rest.identities]
  | closed others notices closes dials identities =>
      refine .closed (others ++ more) ?_ ?_ ?_ ?_
      · rw [silent.notices, notices, List.append_assoc]
      · rw [connectionEvents_append, silent.silent, closes, List.append_nil]
      · rw [silent.dials, dials]
      · rw [silent.identities, identities]
  | redialed record sooner later now notices closes dials reported opens grown fresh =>
      rw [← silent.identities] at grown fresh
      refine .redialed record sooner (later ++ more) now ?_ closes ?_ reported ?_ grown fresh
      · rw [silent.notices, notices]
        simp only [List.append_assoc]
      · rw [silent.dials, dials]
      · rw [connectionEvents_append, silent.silent, opens, List.append_nil]

end Turn

end Transport

namespace Client

section Turns

variable (client : Client) (call : Call α) (stub : Stub) (live : Live) (status : Status)
  (failure : String) (attempt : Nat) (answer : Except Status α) (transport : Transport)

theorem silent_invoked : transport.Silent [] (invoked call attempt stub transport) :=
  ⟨by simp, rfl, by simp, by simp⟩

theorem silent_failed :
    transport.Silent [.callFailed client.name status]
      (client.failedTransport call live status transport) :=
  ⟨by simp, rfl, by simp, by simp⟩

theorem silent_concluded : transport.Silent (client.conclusionNotices answer)
    (client.concluded transport answer) :=
  ⟨by simp, connectionEvents_remarks (client.remarks_conclusion answer), by simp, by simp⟩

theorem silent_retried : transport.Silent (client.retryNotices answer)
    (client.retried transport answer) :=
  ⟨by simp, connectionEvents_remarks (client.remarks_retry answer), by simp, by simp⟩

theorem turn_renewed : transport.Turn client.connectionId? (client.renewedTransport transport)
    (client.renewed transport).connectionId? := by
  refine .redialed (client.redialRecord transport) client.beforeNotices
    (client.behindNotices ⟨transport.identities + 1⟩ none) _ ?_ ?_ ?_ ?_ rfl ?_ ?_
  · exact client.notices_renewedTransport transport
  · exact client.connectionEvents_before
  · exact client.dials_renewedTransport transport
  · simp [redialRecord]
  · simp
  · rintro id ⟨⟩
    simp [nextLive, Handle.next]

theorem turn_lost : transport.Turn client.connectionId? (client.lostTransport failure transport)
    none := by
  refine .redialed (client.redialRecord transport) client.beforeNotices
    (client.behindNotices ⟨transport.identities + 1⟩ (some failure)) none ?_ ?_ ?_ ?_ rfl ?_ ?_
  · exact client.notices_lostTransport failure transport
  · exact client.connectionEvents_before
  · exact client.dials_lostTransport failure transport
  · simp [redialRecord]
  · simp
  · rintro id ⟨⟩

end Turns

theorem CallPath.turn {client : Client} {call : Call α} {transport : Transport}
    {report : CallReport α} (path : CallPath client call transport report) :
    transport.Turn client.connectionId? report.transport report.client.connectionId? := by
  have counted : ∀ (other : Transport) event, other.Silent [] (other.count event) :=
    fun other event => ⟨(List.append_nil _).symm, rfl, rfl, rfl⟩
  cases path with
  | concluded live connected final =>
      exact .of_silent (silent_invoked call live.stub 0 transport)
        (.kept _ (client.silent_concluded _ _))
  | lost live status failure connected answered unavailable refused =>
      exact .of_silent (client.silent_failed call live status transport)
        ((client.turn_lost failure _).silent (counted _ _))
  | retried live status connected answered unavailable accepted =>
      have noted : ∀ other : Transport, other.Silent [.retryingCall client.name]
          (other.note (.retryingCall client.name)) := fun other => ⟨rfl, rfl, rfl, rfl⟩
      have renewed := client.turn_renewed (client.failedTransport call live status transport)
      exact .of_silent (client.silent_failed call live status transport)
        (((renewed.silent (noted _)).silent (silent_invoked call _ 1 _)).silent
          (silent_retried _ _ _))
  | refused failure disconnected refused =>
      exact (client.turn_lost failure transport).silent (counted _ _)
  | entered disconnected accepted =>
      exact ((client.turn_renewed transport).silent (silent_invoked call _ 0 _)).silent
        (silent_concluded _ _ _)

end Client

namespace ClientRun

def connectionId? (run : ClientRun) : Option ConnectionId :=
  run.live?.map (·.handle.id)

theorem connectionId_of_client {run : ClientRun} {client : Client}
    (current : run.client = some client) : run.connectionId? = client.connectionId? := by
  simp only [connectionId?, live?, current, Option.bind_some, Client.connectionId?]

theorem turn_act (run : ClientRun) (action : ClientAction α) :
    run.transport.Turn run.connectionId? (run.act action).2.transport
      (run.act action).2.connectionId? := by
  have deed := run.deed_act action
  generalize (run.act action).2 = after at *
  cases deed with
  | called client call current recorded =>
      rw [connectionId_of_client current]
      exact (client.callPath call run.transport).turn
  | closed client current unrecorded =>
      rw [connectionId_of_client current]
      exact .closed _ (client.notices_close _) client.connectionEvents_close
        (Transport.SameHistory.close _ client).dials (client.identities_close _)
  | idle after idle same unrecorded =>
      rw [connectionId?, connectionId?, same]
      refine .kept [] ⟨?_, rfl, idle.history.dials, idle.identities⟩
      rw [idle.journal, List.append_nil]

end ClientRun

namespace Transport

/-- The connections of a client since some transport, as its notices tell of them: `told` is what
    was reported since, `made` are the dials, and `current` is the connection that is open. -/
structure TakesTurns (base : Transport) (told : List Notice) (made : List DialRecord)
    (after : Transport) (current : Option ConnectionId) : Prop where
  notices : after.journal.notices = base.journal.notices ++ told
  dials : after.dials = base.dials ++ made
  /-- One connection after the other is established and closed, with ascending identities. -/
  alternate : ∃ ids, connectionEvents told = turns ids current ∧
    (ids ++ current.toList).Pairwise (·.number < ·.number) ∧
      ∀ id ∈ ids ++ current.toList, id.number ≤ after.identities
  /-- Whatever was established before a dial was closed before it. -/
  vacant : ∀ record ∈ made, ∃ sooner later ids, told = sooner ++ later ∧
    record.reported = base.journal.notices.length + sooner.length ∧
      connectionEvents sooner = turns ids none

namespace TakesTurns

variable {base transport after : Transport} {told more : List Notice} {made : List DialRecord}
  {was now : Option ConnectionId}

theorem vacant_append (turns : base.TakesTurns told made transport was) (more : List Notice) :
    ∀ record ∈ made, ∃ sooner later ids, told ++ more = sooner ++ later ∧
      record.reported = base.journal.notices.length + sooner.length ∧
        connectionEvents sooner = RpcTransport.turns ids none := by
  intro record member
  obtain ⟨sooner, later, ids, split, reported, closed⟩ := turns.vacant record member
  exact ⟨sooner, later ++ more, ids, by rw [split, List.append_assoc], reported, closed⟩

theorem turn (turns : base.TakesTurns told made transport was)
    (turn : transport.Turn was after now) :
    ∃ told made, base.TakesTurns told made after now := by
  obtain ⟨ids, events, ascending, bounded⟩ := turns.alternate
  cases turn with
  | kept more silent =>
      refine ⟨told ++ more, made, ?_, ?_, ?_, turns.vacant_append more⟩
      · rw [silent.notices, turns.notices, List.append_assoc]
      · rw [silent.dials, turns.dials]
      · refine ⟨ids, ?_, ascending, ?_⟩
        · rw [connectionEvents_append, silent.silent, List.append_nil, events]
        · rw [silent.identities]
          exact bounded
  | closed more notices closes dials identities =>
      refine ⟨told ++ more, made, ?_, ?_, ?_, turns.vacant_append more⟩
      · rw [notices, turns.notices, List.append_assoc]
      · rw [dials, turns.dials]
      · refine ⟨ids ++ was.toList, ?_, ?_, ?_⟩
        · rw [connectionEvents_append, events, closes, turns_closed]
        · rw [Option.toList_none, List.append_nil]
          exact ascending
        · rw [Option.toList_none, List.append_nil, identities]
          exact bounded
  | redialed record sooner later now notices closes dials reported opens grown fresh =>
      -- the old connection is closed among the notices in front of the dial
      have vacated : connectionEvents (told ++ sooner) =
          RpcTransport.turns (ids ++ was.toList) none := by
        rw [connectionEvents_append, events, closes, turns_closed]
      refine ⟨told ++ (sooner ++ later), made ++ [record], ?_, ?_, ?_, ?_⟩
      · rw [notices, turns.notices, List.append_assoc]
      · rw [dials, turns.dials, List.append_assoc]
      · refine ⟨ids ++ was.toList, ?_, ?_, ?_⟩
        · rw [← List.append_assoc, connectionEvents_append, vacated, opens, turns_established]
        · refine List.pairwise_append.mpr ⟨ascending, by cases now <;> simp, ?_⟩
          intro earlier old id new
          have := bounded earlier old
          have := (fresh id (Option.mem_toList.mp new)).1
          omega
        · intro id member
          rcases List.mem_append.mp member with old | new
          · exact Nat.le_trans (bounded id old) grown
          · exact (fresh id (Option.mem_toList.mp new)).2
      · intro other member
        rcases List.mem_append.mp member with old | new
        · exact turns.vacant_append _ other old
        · rw [List.mem_singleton.mp new]
          refine ⟨told ++ sooner, later, ids ++ was.toList, ?_, ?_, vacated⟩
          · rw [List.append_assoc]
          · rw [reported, turns.notices]
            simp only [List.length_append]
            omega

end TakesTurns

end Transport

namespace ClientRun

theorem takesTurns_acts {base : Transport} {run : ClientRun} {told : List Notice}
    {made : List DialRecord}
    (turns : base.TakesTurns told made run.transport run.connectionId?)
    (actions : List (ClientAction α)) :
    ∃ told made, base.TakesTurns told made (run.acts actions).transport
      (run.acts actions).connectionId? := by
  have step : ∀ (run : ClientRun) (action : ClientAction α),
      (∃ told made, base.TakesTurns told made run.transport run.connectionId?) →
        ∃ told made, base.TakesTurns told made (run.act action).2.transport
          (run.act action).2.connectionId? := by
    rintro run action ⟨told, made, turns⟩
    exact turns.turn (run.turn_act action)
  exact acts_induction step ⟨told, made, turns⟩ actions

theorem takesTurns_started (name : String) (target : DialTarget) (transport : Transport) :
    transport.TakesTurns
      [.connectionEstablished ⟨transport.identities + 1⟩ target.address,
        .clientConnected name target.address]
      [⟨target, transport.live, transport.kept, transport.nextOutcome,
        transport.journal.notices.length⟩]
      (started name target transport).transport (started name target transport).connectionId? := by
  refine ⟨List.append_assoc _ [_] [_], rfl, ⟨[], rfl, ?_, ?_⟩, ?_⟩
  · exact List.pairwise_singleton _ _
  · rintro id member
    rw [List.mem_singleton.mp member]
    exact Nat.le_refl _
  · intro record member
    rw [List.mem_singleton.mp member]
    exact ⟨[], _, [], rfl, rfl, rfl⟩

end ClientRun

end RpcTransport
