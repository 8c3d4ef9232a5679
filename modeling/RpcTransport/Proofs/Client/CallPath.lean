import RpcTransport.Proofs.Client.Reconnect

/-! # The ways a call can go

A call on a connected client invokes its stub. Only if the endpoint was unavailable does it
go on: it dials, and if that connects it is made again on the new connection. A call on a
disconnected client dials before its only invocation. Each of these five ways has one
equation here, and laws about calls are proved way by way.
-/

namespace RpcTransport

variable {α : Type}

theorem Status.retry_eq_iff {status : Status} :
    status.retry = .retryWithReconnect ↔ status.code = .unavailable := by
  simpa [Status.retry, RetryDecision.needsReconnect] using
    Code.needsReconnect_retry_iff status.code

namespace Transport

/-- No dial and no invocation lies between two transports. -/
structure SameHistory (transport other : Transport) : Prop where
  dials : other.dials = transport.dials
  generation : other.generation = transport.generation
  invocations : other.invocations = transport.invocations

end Transport

namespace Client

def invoked (call : Call α) (attempt : Nat) (stub : Stub) (transport : Transport) : Transport :=
  (invoke call attempt stub transport).2

def concluded (client : Client) (transport : Transport) : Except Status α → Transport
  | .ok _ => transport.count (.call client.name .ok)
  | .error status =>
    let transport := transport.note (.callFailed client.name status)
    let transport :=
      if status.retry = .retryOnly then
        transport.note (.failureReturned client.name status.code)
      else transport
    transport.count (.call client.name .failed)

def retried (client : Client) (transport : Transport) : Except Status α → Transport
  | .ok _ => transport.count (.call client.name .recoveredOk)
  | .error status =>
    (transport.note (.retryFailed client.name status)).count
      (.call client.name .recoveredFailed)

def failedTransport (client : Client) (call : Call α) (live : Live) (status : Status)
    (transport : Transport) : Transport :=
  (invoked call 0 live.stub transport).note (.callFailed client.name status)

section Fields

variable (call : Call α) (attempt : Nat) (stub : Stub) (transport : Transport)

@[simp] theorem nextOutcome_invoked :
    (invoked call attempt stub transport).nextOutcome = transport.nextOutcome := by
  simp only [invoked, invoke]
  split <;> rfl

@[simp] theorem dials_invoked :
    (invoked call attempt stub transport).dials = transport.dials := by
  simp only [invoked, invoke]
  split <;> rfl

@[simp] theorem generation_invoked :
    (invoked call attempt stub transport).generation = transport.generation := by
  simp only [invoked, invoke]
  split <;> rfl

@[simp] theorem invocations_invoked :
    (invoked call attempt stub transport).invocations =
      transport.invocations ++ [⟨stub.connection, transport.dials.length⟩] := by
  simp only [invoked, invoke]
  split <;> rfl

variable (client : Client) (live : Live) (status : Status)

@[simp] theorem nextOutcome_failedTransport :
    (client.failedTransport call live status transport).nextOutcome = transport.nextOutcome :=
  nextOutcome_invoked call 0 live.stub transport

@[simp] theorem dials_failedTransport :
    (client.failedTransport call live status transport).dials = transport.dials :=
  dials_invoked call 0 live.stub transport

@[simp] theorem generation_failedTransport :
    (client.failedTransport call live status transport).generation = transport.generation :=
  generation_invoked call 0 live.stub transport

@[simp] theorem invocations_failedTransport :
    (client.failedTransport call live status transport).invocations =
      transport.invocations ++ [⟨live.stub.connection, transport.dials.length⟩] :=
  invocations_invoked call 0 live.stub transport

variable (answer : Except Status α)

theorem sameHistory_concluded :
    transport.SameHistory (client.concluded transport answer) := by
  cases answer with
  | ok value => exact ⟨rfl, rfl, rfl⟩
  | error status =>
      simp only [concluded]
      split <;> exact ⟨rfl, rfl, rfl⟩

theorem sameHistory_retried : transport.SameHistory (client.retried transport answer) := by
  cases answer <;> exact ⟨rfl, rfl, rfl⟩

@[simp] theorem dials_concluded :
    (client.concluded transport answer).dials = transport.dials :=
  (client.sameHistory_concluded transport answer).dials

@[simp] theorem invocations_concluded :
    (client.concluded transport answer).invocations = transport.invocations :=
  (client.sameHistory_concluded transport answer).invocations

@[simp] theorem dials_retried :
    (client.retried transport answer).dials = transport.dials :=
  (client.sameHistory_retried transport answer).dials

@[simp] theorem invocations_retried :
    (client.retried transport answer).invocations = transport.invocations :=
  (client.sameHistory_retried transport answer).invocations

end Fields

def Unavailable (answer : Except Status α) : Prop :=
  ∃ status, answer = .error status ∧ status.code = .unavailable

def concludedReport (client : Client) (call : Call α) (stub : Stub) (transport : Transport) :
    CallReport α :=
  ⟨(call 0 stub).result.mapError .call, [stub], client,
    client.concluded (invoked call 0 stub transport) (call 0 stub).result⟩

def lostReport (client : Client) (stubs : List Stub) (failure : String)
    (transport : Transport) : CallReport α :=
  ⟨.error (.dial client.target.address failure), stubs, { client with live := none },
    (client.lostTransport failure transport).count (.call client.name .dialFailed)⟩

def retriedReport (client : Client) (call : Call α) (first second : Stub)
    (transport : Transport) : CallReport α :=
  ⟨(call 1 second).result.mapError .call, [first, second], client,
    client.retried (invoked call 1 second (transport.note (.retryingCall client.name)))
      (call 1 second).result⟩

def afterReconnect (stubs : List Stub) (goOn : Client → Transport → CallReport α) :
    Except ClientError Unit × Client × Transport → CallReport α
  | (.error e, client, transport) => ⟨.error e, stubs, client, transport⟩
  | (.ok (), client, transport) => goOn client transport

/-- An answer is final if the endpoint was available, or if the call has reconnected. -/
theorem attempt_of_final {client : Client} {live : Live} (connected : client.live = some live)
    (call : Call α) {reconnected : Bool}
    (final : Unavailable (call 0 live.stub).result → reconnected = true)
    (transport : Transport) :
    client.attempt call reconnected transport =
      client.concludedReport call live.stub transport := by
  simp only [attempt, currentStub, connected, invoke, concludedReport, concluded, invoked]
  cases answered : (call 0 live.stub).result with
  | ok value => rfl
  | error status =>
      have stop : status.retry ≠ .retryWithReconnect ∨ reconnected = true := by
        by_cases again : status.code = .unavailable
        · exact .inr (final ⟨status, answered, again⟩)
        · exact .inl (mt Status.retry_eq_iff.mp again)
      simp only [if_pos stop]
      rfl

theorem attempt_of_unavailable {client : Client} {live : Live}
    (connected : client.live = some live) {call : Call α} {status : Status}
    (answered : (call 0 live.stub).result = .error status)
    (unavailable : status.code = .unavailable) (transport : Transport) :
    client.attempt call false transport =
      afterReconnect [live.stub] (fun client => client.retry call [live.stub])
        (client.reconnectForCall (client.failedTransport call live status transport)) := by
  have again : status.retry = .retryWithReconnect := Status.retry_eq_iff.mpr unavailable
  simp only [attempt, currentStub, connected, invoke, failedTransport, invoked, answered, again,
    ne_eq, not_true_eq_false, Bool.false_eq_true, or_self, if_false]
  rfl

theorem retry_of_connected {client : Client} {live : Live} (connected : client.live = some live)
    (call : Call α) (first : Stub) (transport : Transport) :
    client.retry call [first] transport =
      client.retriedReport call first live.stub transport := by
  simp only [retry, currentStub, connected, invoke, retriedReport, retried, invoked,
    List.length_singleton, List.singleton_append]
  cases (call 1 live.stub).result <;> rfl

section ReportFields

variable (client : Client) (call : Call α) (stub second : Stub) (stubs : List Stub)
  (failure : String) (transport : Transport)

@[simp] theorem dials_concludedReport :
    (client.concludedReport call stub transport).transport.dials = transport.dials := by
  simp [concludedReport]

@[simp] theorem dials_lostReport :
    (client.lostReport stubs failure transport : CallReport α).transport.dials =
      transport.dials ++ [client.redialRecord transport] := by
  simp [lostReport]

@[simp] theorem dials_retriedReport :
    (client.retriedReport call stub second transport).transport.dials = transport.dials := by
  simp [retriedReport]

@[simp] theorem invocations_concludedReport :
    (client.concludedReport call stub transport).transport.invocations =
      transport.invocations ++ [⟨stub.connection, transport.dials.length⟩] := by
  simp [concludedReport]

@[simp] theorem invocations_lostReport :
    (client.lostReport stubs failure transport : CallReport α).transport.invocations =
      transport.invocations := by
  simp [lostReport]

@[simp] theorem invocations_retriedReport :
    (client.retriedReport call stub second transport).transport.invocations =
      transport.invocations ++ [⟨second.connection, transport.dials.length⟩] := by
  simp [retriedReport]

end ReportFields

theorem call_of_connected {client : Client} {live : Live} (connected : client.live = some live)
    (call : Call α) (transport : Transport) :
    client.call call transport = client.attempt call false transport := by
  simp only [Client.call, isConnected, connected, Option.isSome_some, if_true]

theorem call_of_concluded {client : Client} {live : Live} (connected : client.live = some live)
    {call : Call α} (final : ¬ Unavailable (call 0 live.stub).result) (transport : Transport) :
    client.call call transport = client.concludedReport call live.stub transport := by
  rw [call_of_connected connected,
    attempt_of_final connected call (fun unavailable => absurd unavailable final)]

section Unavailable

variable {client : Client} {live : Live} (connected : client.live = some live)
  {call : Call α} {status : Status} (answered : (call 0 live.stub).result = .error status)
  (unavailable : status.code = .unavailable) {transport : Transport}

include connected answered unavailable

theorem call_of_lost {failure : String} (refused : transport.nextOutcome = some failure) :
    client.call call transport =
      client.lostReport [live.stub] failure
        (client.failedTransport call live status transport) := by
  have refused :
      (client.failedTransport call live status transport).nextOutcome = some failure := by
    simp [refused]
  rw [call_of_connected connected, attempt_of_unavailable connected answered unavailable,
    client.reconnectForCall_of_failure refused]
  rfl

theorem call_of_retried (accepted : transport.nextOutcome = none) :
    client.call call transport =
      (client.renewed (client.failedTransport call live status transport)).retriedReport call
        live.stub ⟨transport.generation + 1⟩
        (client.renewedTransport (client.failedTransport call live status transport)) := by
  have accepted : (client.failedTransport call live status transport).nextOutcome = none := by
    simp [accepted]
  rw [call_of_connected connected, attempt_of_unavailable connected answered unavailable,
    client.reconnectForCall_of_success accepted]
  simp only [afterReconnect, retry_of_connected (live_renewed _ _), nextLive,
    generation_failedTransport]

end Unavailable

section Disconnected

variable {client : Client} (disconnected : client.live = none) (call : Call α)
  {transport : Transport}

include disconnected

theorem call_of_disconnected :
    client.call call transport =
      afterReconnect [] (fun client => client.attempt call true)
        (client.reconnectForCall transport) := by
  simp only [Client.call, isConnected, disconnected, Option.isSome_none, Bool.false_eq_true,
    if_false]
  rfl

theorem call_of_refused {failure : String} (refused : transport.nextOutcome = some failure) :
    client.call call transport = client.lostReport [] failure transport := by
  rw [call_of_disconnected disconnected, client.reconnectForCall_of_failure refused]
  rfl

theorem call_of_entered (accepted : transport.nextOutcome = none) :
    client.call call transport =
      (client.renewed transport).concludedReport call ⟨transport.generation + 1⟩
        (client.renewedTransport transport) := by
  rw [call_of_disconnected disconnected, client.reconnectForCall_of_success accepted]
  exact attempt_of_final (live_renewed _ _) call (fun _ => rfl) _

end Disconnected

/-- The ways a call can go, each with everything it leaves behind. -/
inductive CallPath (client : Client) (call : Call α) (transport : Transport) :
    CallReport α → Prop where
  | concluded (live : Live) (connected : client.live = some live)
      (final : ¬ Unavailable (call 0 live.stub).result) :
      CallPath client call transport (client.concludedReport call live.stub transport)
  | lost (live : Live) (status : Status) (failure : String)
      (connected : client.live = some live)
      (answered : (call 0 live.stub).result = .error status)
      (unavailable : status.code = .unavailable)
      (refused : transport.nextOutcome = some failure) :
      CallPath client call transport
        (client.lostReport [live.stub] failure
          (client.failedTransport call live status transport))
  | retried (live : Live) (status : Status) (connected : client.live = some live)
      (answered : (call 0 live.stub).result = .error status)
      (unavailable : status.code = .unavailable)
      (accepted : transport.nextOutcome = none) :
      CallPath client call transport
        ((client.renewed (client.failedTransport call live status transport)).retriedReport call
          live.stub ⟨transport.generation + 1⟩
          (client.renewedTransport (client.failedTransport call live status transport)))
  | refused (failure : String) (disconnected : client.live = none)
      (refused : transport.nextOutcome = some failure) :
      CallPath client call transport (client.lostReport [] failure transport)
  | entered (disconnected : client.live = none) (accepted : transport.nextOutcome = none) :
      CallPath client call transport
        ((client.renewed transport).concludedReport call ⟨transport.generation + 1⟩
          (client.renewedTransport transport))

theorem callPath (client : Client) (call : Call α) (transport : Transport) :
    CallPath client call transport (client.call call transport) := by
  cases connection : client.live with
  | some live =>
      by_cases final : Unavailable (call 0 live.stub).result
      · obtain ⟨status, answered, unavailable⟩ := final
        cases outcome : transport.nextOutcome with
        | some failure =>
            rw [call_of_lost connection answered unavailable outcome]
            exact .lost live status failure connection answered unavailable outcome
        | none =>
            rw [call_of_retried connection answered unavailable outcome]
            exact .retried live status connection answered unavailable outcome
      · rw [call_of_concluded connection final]
        exact .concluded live connection final
  | none =>
      cases outcome : transport.nextOutcome with
      | some failure =>
          rw [call_of_refused connection call outcome]
          exact .refused failure connection outcome
      | none =>
          rw [call_of_entered connection call outcome]
          exact .entered connection outcome

theorem CallPath.prefix_dials {client : Client} {call : Call α} {transport : Transport}
    {report : CallReport α} (path : CallPath client call transport report) :
    transport.dials <+: report.transport.dials := by
  cases path <;> simp

end Client

end RpcTransport
