import RpcTransport.Proofs.Client.Turns

/-! # The chronicle of a client

What a client reports from its construction on can be read back. Every reconnect is announced
once and ends once, a connection is given up just if there was one, and a call says that it is
made again just if it runs twice.
-/

namespace RpcTransport

variable {α : Type}

namespace Notice

def ofReconnect : Notice → Bool
  | reconnecting .. | closingConnection .. | connectionClosed .. | connectionEstablished ..
  | reconnected .. | reconnectFailed .. => true
  | _ => false

def ofRetry : Notice → Bool
  | retryingCall .. => true
  | _ => false

def ofCall : Notice → Bool
  | reconnecting .. | closingConnection .. | reconnected .. | reconnectFailed ..
  | retryingCall .. => true
  | _ => false

end Notice

inductive ReconnectEvent where
  | began
  | ended (connection : Option ConnectionId)
  deriving Repr, DecidableEq

def Notice.reconnectEvent? : Notice → Option ReconnectEvent
  | .reconnecting .. => some .began
  | .reconnected _ _ id => some (.ended (some id))
  | .reconnectFailed .. => some (.ended none)
  | _ => none

/-- Every reconnect that some notices tell of ends once, before there is another. -/
def Paired (notices : List Notice) : Prop :=
  ∃ ends : List (Option ConnectionId), notices.filterMap Notice.reconnectEvent? =
    ends.flatMap fun connection => [.began, .ended connection]

/-- A reconnect succeeds on the connection just established. -/
def Announced (notices : List Notice) : Prop :=
  ∀ earlier client target id later, notices = earlier ++ .reconnected client target id :: later →
    ∃ before address, earlier = before ++ [.connectionEstablished id address]

section Notices

variable {notices others : List Notice}

theorem Paired.append (first : Paired notices) (second : Paired others) :
    Paired (notices ++ others) := by
  obtain ⟨ends, events⟩ := first
  obtain ⟨more, rest⟩ := second
  exact ⟨ends ++ more, by rw [List.filterMap_append, List.flatMap_append, events, rest]⟩

theorem Announced.append (first : Announced notices) (second : Announced others) :
    Announced (notices ++ others) := by
  intro earlier client target id later split
  rcases List.append_eq_append_iff.mp split with ⟨middle, front, back⟩ | ⟨middle, front, back⟩
  · obtain ⟨before, address, rfl⟩ := second middle client target id later back
    exact ⟨notices ++ before, address, by rw [front, List.append_assoc]⟩
  · cases middle with
    | nil =>
        obtain ⟨before, address, absurd⟩ := second [] client target id later back.symm
        simp at absurd
    | cons notice rest =>
        cases back
        exact first earlier client target id rest front

theorem paired_of_absent (absent : ∀ notice ∈ notices, notice.reconnectEvent? = none) :
    Paired notices :=
  ⟨[], List.filterMap_eq_nil_iff.mpr absent⟩

theorem ofReconnect_remarks (remarks : ∀ notice ∈ notices, notice.isRemark = true) :
    ∀ notice ∈ notices, notice.ofReconnect = false := by
  intro notice member
  have remark := remarks notice member
  cases notice <;> first | rfl | cases remark

theorem ofRetry_remarks (remarks : ∀ notice ∈ notices, notice.isRemark = true) :
    notices.filter Notice.ofRetry = [] := by
  refine List.filter_eq_nil_iff.mpr fun notice member => ?_
  have remark := remarks notice member
  cases notice <;> first | exact Bool.false_ne_true | cases remark

theorem announced_of_absent
    (absent : ∀ client target id, Notice.reconnected client target id ∉ notices) :
    Announced notices := by
  rintro earlier client target id later rfl
  exact absurd (List.mem_append_right _ List.mem_cons_self) (absent client target id)

theorem announced_pair (client target address : String) (id : ConnectionId) :
    Announced [.connectionEstablished id address, .reconnected client target id] := by
  intro earlier other target id later split
  match earlier with
  | [] => cases split
  | [notice] =>
      cases split
      exact ⟨[], address, rfl⟩
  | _ :: _ :: _ => simp at split

end Notices

namespace Client

section Reconnects

variable (client : Client) (id : ConnectionId) (outcome : Option String)

theorem paired_reconnect : Paired (client.reconnectNotices id outcome) := by
  cases outcome with
  | none =>
      refine ⟨[some id], ?_⟩
      simp only [reconnectNotices, beforeNotices, behindNotices, departure]
      cases client.live <;> rfl
  | some failure =>
      refine ⟨[none], ?_⟩
      simp only [reconnectNotices, beforeNotices, behindNotices, departure]
      cases client.live <;> rfl

theorem announced_reconnect : Announced (client.reconnectNotices id outcome) := by
  have before : Announced client.beforeNotices := by
    refine announced_of_absent fun name target id => ?_
    simp only [beforeNotices, departure]
    cases client.live <;> simp
  refine before.append ?_
  cases outcome with
  | none => exact announced_pair _ _ _ _
  | some failure => exact announced_of_absent fun name target id => by simp [behindNotices]

end Reconnects

end Client

namespace CallRecord

def notices (record : CallRecord) : List Notice :=
  record.after.journal.notices.drop record.before.journal.notices.length

/-- What reconnects report, one for each dial of the call. -/
def reconnects (record : CallRecord) : List Notice :=
  record.dials.flatMap (record.client.reconnectNotices ⟨record.before.identities + 1⟩)

structure Tells (record : CallRecord) : Prop where
  /-- There is one reconnect for each dial, in one piece, and no part of any other. -/
  reconnects : ∃ opening ending, record.notices = opening ++ record.reconnects ++ ending ∧
    ∀ notice ∈ opening ++ ending, notice.ofReconnect = false
  /-- The call says that it is made again just if it runs twice. -/
  retries : record.notices.filter Notice.ofRetry =
    if record.runs = 2 then [.retryingCall record.name] else []

end CallRecord

namespace Client

theorem ofRetry_reconnect (client : Client) (id : ConnectionId) (outcome : Option String) :
    (client.reconnectNotices id outcome).filter Notice.ofRetry = [] := by
  simp only [reconnectNotices, beforeNotices, departure]
  cases outcome <;> cases client.live <;> rfl

theorem tells_of_effect {client : Client} {transport : Transport} {report : CallReport α}
    {stubs : List Stub} {dials : List (Option String)}
    (effect : Effect transport report stubs dials) (opening ending : List Notice)
    (notices : report.transport.journal.notices = transport.journal.notices ++
      (opening ++ dials.flatMap (client.reconnectNotices ⟨transport.identities + 1⟩) ++ ending))
    (others : ∀ notice ∈ opening ++ ending, notice.ofReconnect = false)
    (retries : (opening ++ ending).filter Notice.ofRetry =
      if stubs.length = 2 then [.retryingCall client.name] else []) :
    CallRecord.Tells ⟨client, transport, report.transport⟩ := by
  have told : CallRecord.notices ⟨client, transport, report.transport⟩ =
      opening ++ CallRecord.reconnects ⟨client, transport, report.transport⟩ ++ ending := by
    simp only [CallRecord.notices, CallRecord.reconnects, CallRecord.dials_eq effect, notices,
      List.drop_left]
  have quiet : (dials.flatMap (client.reconnectNotices ⟨transport.identities + 1⟩)).filter
      Notice.ofRetry = [] := by
    simp [List.filter_flatMap, ofRetry_reconnect]
  refine ⟨⟨opening, ending, told, others⟩, ?_⟩
  rw [told, CallRecord.reconnects, CallRecord.dials_eq effect, CallRecord.runs_eq effect,
    List.filter_append, List.filter_append, quiet, List.append_nil, ← List.filter_append, retries]
  rfl

theorem CallPath.tells {client : Client} {call : Call α} {transport : Transport}
    {report : CallReport α} (path : CallPath client call transport report) :
    CallRecord.Tells ⟨client, transport, report.transport⟩ := by
  cases path with
  | concluded live connected final =>
      refine tells_of_effect (effect_concludedReport client call live.stub transport) []
        (client.conclusionNotices (call 0 live.stub).result) ?_ ?_ ?_
      · simp
      · exact ofReconnect_remarks (client.remarks_conclusion _)
      · exact ofRetry_remarks (client.remarks_conclusion _)
  | lost live status failure connected answered unavailable refused =>
      refine tells_of_effect (effect_lost client call live status refused)
        [.callFailed client.name status] [] ?_ ?_ ?_
      · simp
      · simp [Notice.ofReconnect]
      · rfl
  | retried live status connected answered unavailable accepted =>
      refine tells_of_effect (effect_retried client call live status accepted)
        [.callFailed client.name status] (.retryingCall client.name ::
          client.retryNotices (call 1 ⟨transport.generation + 1⟩).result) ?_ ?_ ?_
      · simp [renewed, retryNotices]
      · have quiet := ofReconnect_remarks
          (client.remarks_retry (call 1 ⟨transport.generation + 1⟩).result)
        simpa [Notice.ofReconnect] using quiet
      · have quiet := ofRetry_remarks
          (client.remarks_retry (call 1 ⟨transport.generation + 1⟩).result)
        exact congrArg (Notice.retryingCall client.name :: ·) quiet
  | refused failure disconnected refused =>
      -- nothing runs, so the reconnect is all there is to tell
      have effect : Effect transport
          (client.lostReport [] failure transport : CallReport α) [] [some failure] :=
        effect_refused client refused
      refine tells_of_effect effect [] [] ?_ ?_ ?_
      · simp
      · simp
      · rfl
  | entered disconnected accepted =>
      refine tells_of_effect (effect_entered client call accepted) []
        (client.conclusionNotices (call 0 ⟨transport.generation + 1⟩).result) ?_ ?_ ?_
      · simp [renewed, conclusionNotices]
      · exact ofReconnect_remarks (client.remarks_conclusion _)
      · exact ofRetry_remarks (client.remarks_conclusion _)

theorem CallPath.prefix_notices {client : Client} {call : Call α} {transport : Transport}
    {report : CallReport α} (path : CallPath client call transport report) :
    transport.journal.notices <+: report.transport.journal.notices := by
  cases path <;> simp

end Client

/-- What is reported between two transports, as far as it concerns reconnects and second runs:
    all of it is that of some calls. -/
structure Transport.Narrates (before : Transport) (records : List CallRecord)
    (more : List Notice) (after : Transport) : Prop where
  notices : after.journal.notices = before.journal.notices ++ more
  own : more.filter Notice.ofCall =
    records.flatMap fun record => record.notices.filter Notice.ofCall
  paired : Paired more
  announced : Announced more

namespace Transport.Narrates

variable {before between after : Transport} {records others : List CallRecord}
  {more rest : List Notice}

theorem trans (first : before.Narrates records more between)
    (second : between.Narrates others rest after) :
    before.Narrates (records ++ others) (more ++ rest) after := by
  refine ⟨?_, ?_, first.paired.append second.paired, first.announced.append second.announced⟩
  · rw [second.notices, first.notices, List.append_assoc]
  · rw [List.filter_append, first.own, second.own, List.flatMap_append]

theorem of_absent (notices : after.journal.notices = before.journal.notices ++ more)
    (absent : ∀ notice ∈ more, notice.ofCall = false) : before.Narrates [] more after := by
  refine ⟨notices, ?_, paired_of_absent ?_, announced_of_absent ?_⟩
  · exact List.filter_eq_nil_iff.mpr fun notice member => by simp [absent notice member]
  · intro notice member
    have other := absent notice member
    cases notice <;> first | rfl | cases other
  · intro client target id member
    cases absent _ member

theorem of_silent (same : after.journal.notices = before.journal.notices) :
    before.Narrates [] [] after :=
  of_absent (same.trans (List.append_nil _).symm) fun _ absent => nomatch absent

end Transport.Narrates

namespace CallRecord

theorem paired_reconnects (record : CallRecord) : Paired record.reconnects := by
  rw [reconnects]
  induction record.dials with
  | nil => exact ⟨[], rfl⟩
  | cons outcome rest ih => exact (Client.paired_reconnect _ _ outcome).append ih

theorem announced_reconnects (record : CallRecord) : Announced record.reconnects := by
  rw [reconnects]
  induction record.dials with
  | nil => exact announced_of_absent fun _ _ _ absent => nomatch absent
  | cons outcome rest ih => exact (Client.announced_reconnect _ _ outcome).append ih

theorem Tells.narrates {record : CallRecord} (tells : record.Tells)
    (grown : record.before.journal.notices <+: record.after.journal.notices) :
    record.before.Narrates [record] record.notices record.after := by
  obtain ⟨opening, ending, told, others⟩ := tells.reconnects
  have paired : ∀ remarks : List Notice, (∀ notice ∈ remarks, notice.ofReconnect = false) →
      Paired remarks := by
    refine fun remarks plain => paired_of_absent fun notice member => ?_
    have other := plain notice member
    cases notice <;> first | rfl | cases other
  have announced : ∀ remarks : List Notice, (∀ notice ∈ remarks, notice.ofReconnect = false) →
      Announced remarks := by
    refine fun remarks plain => announced_of_absent fun client target id member => ?_
    cases plain _ member
  have first := fun notice member => others notice (List.mem_append_left ending member)
  have last := fun notice member => others notice (List.mem_append_right opening member)
  refine ⟨?_, by simp, ?_, ?_⟩
  · obtain ⟨more, grown⟩ := grown
    rw [CallRecord.notices, ← grown, List.drop_left]
  · rw [told]
    exact ((paired opening first).append record.paired_reconnects).append (paired ending last)
  · rw [told]
    exact ((announced opening first).append record.announced_reconnects).append
      (announced ending last)

end CallRecord

namespace ClientRun

theorem narrates_act (run : ClientRun) (action : ClientAction α) :
    ∃ more, run.transport.Narrates (run.record action) more (run.act action).2.transport := by
  have deed := run.deed_act action
  generalize (run.act action).2 = after at *
  cases deed with
  | called client call current recorded =>
      rw [recorded]
      have path := client.callPath call run.transport
      exact ⟨_, path.tells.narrates path.prefix_notices⟩
  | closed client current unrecorded =>
      rw [unrecorded]
      refine ⟨_, .of_absent (client.notices_close run.transport) ?_⟩
      simp only [Client.closingNotices]
      cases client.live <;> simp [Notice.ofCall]
  | idle after idle same unrecorded =>
      rw [unrecorded]
      exact ⟨[], .of_silent (congrArg (·.notices) idle.journal)⟩

theorem narrates_acts (run : ClientRun) (actions : List (ClientAction α)) :
    ∃ more, run.transport.Narrates (run.calls actions) more (run.acts actions).transport := by
  induction actions generalizing run with
  | nil => exact ⟨[], .of_silent rfl⟩
  | cons action rest ih =>
      obtain ⟨more, first⟩ := run.narrates_act action
      obtain ⟨others, second⟩ := ih (run.act action).2
      exact ⟨more ++ others, first.trans second⟩

theorem tells_of_mem {run : ClientRun} {actions : List (ClientAction α)} {record : CallRecord}
    (member : record ∈ run.calls actions) : record.Tells := by
  obtain ⟨client, before, after⟩ := record
  obtain ⟨call, report, path, rfl⟩ := path_of_mem member
  exact path.tells

/-- The story of a client from its construction on, as its notices tell it: `base` is the
    transport before its construction, `told` is what was reported since, and `made` are the
    dials. -/
structure Chronicle (base : Transport) (run : ClientRun) (actions : List (ClientAction α))
    (told : List Notice) (made : List DialRecord) : Prop where
  /-- Connections take turns. Of a closed client, all have been closed. -/
  turns : base.TakesTurns told made (run.acts actions).transport (run.acts actions).connectionId?
  paired : Paired told
  announced : Announced told
  /-- Only calls tell of reconnects and of second runs. -/
  own : told.filter Notice.ofCall =
    (run.calls actions).flatMap fun record => record.notices.filter Notice.ofCall
  tells : ∀ record ∈ run.calls actions, record.Tells

/-- Construction reports one connection if its dial connects, and nothing if it fails; from
    there on the notices of a client tell its story. -/
theorem start_chronicle (α : Type) (name : String) (target : DialTarget)
    (transport : Transport) :
    match start name target transport with
    | (.error _, after) => after.journal.notices = transport.journal.notices
    | (.ok run, _) => ∀ actions : List (ClientAction α), ∃ told made,
        Chronicle transport run actions told made := by
  rw [start_eq]
  cases transport.nextOutcome with
  | some failure => rfl
  | none =>
      intro actions
      obtain ⟨told, made, turns⟩ := takesTurns_acts (takesTurns_started name target transport)
        actions
      obtain ⟨more, narrates⟩ := narrates_acts (started name target transport) actions
      have construction : transport.Narrates []
          [.connectionEstablished ⟨transport.identities + 1⟩ target.address,
            .clientConnected name target.address]
          (started name target transport).transport :=
        .of_absent (List.append_assoc _ [_] [_]) (by simp [Notice.ofCall])
      have whole := construction.trans narrates
      have same := List.append_cancel_left (turns.notices.symm.trans whole.notices)
      rw [← same] at whole
      exact ⟨told, made, turns, whole.paired, whole.announced, whole.own,
        fun record member => tells_of_mem member⟩

end ClientRun

end RpcTransport
