import RpcTransport.Proofs.Client.CallPath

/-! # What a client reports

The notices of a reconnect are those of the connection given up, if there was one, and of the
dial behind it. Every way a call can go reports no more than one reconnect, and what its
invocations answered.
-/

namespace RpcTransport

variable {α : Type}

def Notice.isRemark : Notice → Bool
  | callFailed .. | failureReturned .. | retryFailed .. => true
  | _ => false

namespace Client

def departure (client : Client) : List Notice :=
  match client.live with
  | some live =>
    [.closingConnection client.name live.handle.id,
      .connectionClosed live.handle.id live.handle.target.address]
  | none => []

def beforeNotices (client : Client) : List Notice :=
  .reconnecting client.name client.target.address :: client.departure

/-- What is reported behind the dial of a reconnect, which may have failed; `id` is the identity
    of the connection it makes. -/
def behindNotices (client : Client) (id : ConnectionId) : Option String → List Notice
  | none =>
    [.connectionEstablished id client.redialTarget.address,
      .reconnected client.name client.target.address id]
  | some failure => [.reconnectFailed client.name client.target.address failure]

def reconnectNotices (client : Client) (id : ConnectionId) (outcome : Option String) :
    List Notice :=
  client.beforeNotices ++ client.behindNotices id outcome

def conclusionNotices (client : Client) : Except Status α → List Notice
  | .ok _ => []
  | .error status =>
    .callFailed client.name status ::
      if status.retry = .retryOnly then [.failureReturned client.name status.code] else []

def retryNotices (client : Client) : Except Status α → List Notice
  | .ok _ => []
  | .error status => [.retryFailed client.name status]

def closingNotices (client : Client) : List Notice :=
  .clientClosed client.name client.target.address ::
    match client.live with
    | some live => [.connectionClosed live.handle.id live.handle.target.address]
    | none => []

section Remarks

variable (client : Client) (answer : Except Status α)

theorem remarks_conclusion :
    ∀ notice ∈ client.conclusionNotices answer, notice.isRemark = true := by
  cases answer with
  | ok value => simp [conclusionNotices]
  | error status =>
      simp only [conclusionNotices]
      split <;> simp [Notice.isRemark]

theorem remarks_retry : ∀ notice ∈ client.retryNotices answer, notice.isRemark = true := by
  cases answer <;> simp [retryNotices, Notice.isRemark]

end Remarks

section Notices

variable (client : Client) (call : Call α) (stub second : Stub) (stubs : List Stub)
  (live : Live) (status : Status) (failure : String) (attempt : Nat)
  (answer : Except Status α) (transport : Transport)

@[simp] theorem notices_beforeDial :
    (client.beforeDial transport).journal.notices =
      transport.journal.notices ++ client.beforeNotices := by
  simp only [beforeDial, vacate, beforeNotices, departure]
  cases client.live with
  | none => rfl
  | some live =>
      simp [Handle.close, Transport.note, Transport.release]

@[simp] theorem notices_renewedTransport :
    (client.renewedTransport transport).journal.notices =
      transport.journal.notices ++ client.reconnectNotices ⟨transport.identities + 1⟩ none := by
  rw [reconnectNotices, ← List.append_assoc, ← notices_beforeDial,
    ← identities_beforeDial client transport]
  simp [renewedTransport, behindNotices, Transport.established, Transport.dialed,
    Transport.recordDial, Transport.drawIdentity, Transport.acquire, Transport.note,
    Transport.count]

@[simp] theorem notices_lostTransport :
    (client.lostTransport failure transport).journal.notices =
      transport.journal.notices ++
        client.reconnectNotices ⟨transport.identities + 1⟩ (some failure) := by
  rw [reconnectNotices, ← List.append_assoc, ← notices_beforeDial]
  rfl

@[simp] theorem notices_invoked :
    (invoked call attempt stub transport).journal.notices = transport.journal.notices := by
  simp only [invoked, invoke]
  split <;> rfl

@[simp] theorem notices_failedTransport :
    (client.failedTransport call live status transport).journal.notices =
      transport.journal.notices ++ [.callFailed client.name status] := by
  rw [← notices_invoked call live.stub 0 transport]
  rfl

@[simp] theorem notices_concluded :
    (client.concluded transport answer).journal.notices =
      transport.journal.notices ++ client.conclusionNotices answer := by
  cases answer with
  | ok value => exact (List.append_nil _).symm
  | error status =>
      simp only [concluded, conclusionNotices]
      split
      · exact List.append_assoc _ [_] [_]
      · rfl

@[simp] theorem notices_retried :
    (client.retried transport answer).journal.notices =
      transport.journal.notices ++ client.retryNotices answer := by
  cases answer with
  | ok value => exact (List.append_nil _).symm
  | error status => rfl

@[simp] theorem notices_concludedReport :
    (client.concludedReport call stub transport).transport.journal.notices =
      transport.journal.notices ++ client.conclusionNotices (call 0 stub).result := by
  simp [concludedReport]

@[simp] theorem notices_lostReport :
    (client.lostReport stubs failure transport : CallReport α).transport.journal.notices =
      transport.journal.notices ++
        client.reconnectNotices ⟨transport.identities + 1⟩ (some failure) := by
  simp [lostReport, Transport.count]

@[simp] theorem notices_retriedReport :
    (client.retriedReport call stub second transport).transport.journal.notices =
      transport.journal.notices ++
        .retryingCall client.name :: client.retryNotices (call 1 second).result := by
  simp [retriedReport, Transport.note]

theorem notices_close :
    (client.close transport).journal.notices =
      transport.journal.notices ++ client.closingNotices := by
  simp only [close, release, closingNotices]
  cases client.live with
  | none => rfl
  | some live => exact List.append_assoc _ [_] [_]

end Notices

section Identities

variable (client : Client) (call : Call α) (stub : Stub) (live : Live) (status : Status)
  (failure : String) (attempt : Nat) (answer : Except Status α) (transport : Transport)

@[simp] theorem identities_renewedTransport :
    (client.renewedTransport transport).identities = transport.identities + 1 := by
  rw [← identities_beforeDial client transport]
  rfl

@[simp] theorem identities_lostTransport :
    (client.lostTransport failure transport).identities = transport.identities :=
  client.identities_beforeDial transport

@[simp] theorem identities_invoked :
    (invoked call attempt stub transport).identities = transport.identities := by
  simp only [invoked, invoke]
  split <;> rfl

@[simp] theorem identities_failedTransport :
    (client.failedTransport call live status transport).identities = transport.identities :=
  identities_invoked call live.stub 0 transport

@[simp] theorem identities_concluded :
    (client.concluded transport answer).identities = transport.identities := by
  cases answer with
  | ok value => rfl
  | error status =>
      simp only [concluded]
      split <;> rfl

@[simp] theorem identities_retried :
    (client.retried transport answer).identities = transport.identities := by
  cases answer <;> rfl

theorem identities_close : (client.close transport).identities = transport.identities := by
  simp only [close, release]
  cases client.live <;> rfl

end Identities

end Client

end RpcTransport
