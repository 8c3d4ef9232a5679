import RpcTransport.Proofs.Client.CallPath

/-! # One call recovers at most once

What one call does, for every client, every call and every dialer: which stubs it invokes,
how often it dials, and which of the answers it gives on.
-/

namespace RpcTransport

variable {α : Type}

/-- The numbers beyond the seventeen codes all read as unknown. -/
theorem Code.ofInt_eq_unknown {number : Int} (beyond : number < 0 ∨ 16 < number) :
    ofInt number = unknown := by
  simp only [ofInt]
  split
  · have absent : all[number.toNat]? = none := by
      apply List.getElem?_eq_none
      simp only [all, List.length_cons, List.length_nil]
      omega
    rw [absent, Option.getD_none]
  · rfl

namespace Client

/-- What one call does beside its result: the stubs it runs on and how its dials end. -/
structure Effect (transport : Transport) (report : CallReport α) (stubs : List Stub)
    (dials : List (Option String)) : Prop where
  given : report.stubs = stubs
  invoked : report.transport.invocations.map (·.connection) =
    transport.invocations.map (·.connection) ++ stubs.map (·.connection)
  dialed : report.transport.dials.map (·.failure) = transport.dials.map (·.failure) ++ dials

/-- What one call comes to, by the connection of the client, the answers of the call and the
    outcome of the next dial. -/
structure RecoversOnce (client : Client) (call : Call α) (transport : Transport)
    (report : CallReport α) : Prop where
  /-- A success is given on, without a dial. -/
  answered : ∀ live value, client.live = some live → (call 0 live.stub).result = .ok value →
    report.result = .ok value ∧ report.client = client ∧
      Effect transport report [live.stub] []
  /-- So is the failure of an endpoint that was available. -/
  returned : ∀ live status, client.live = some live →
    (call 0 live.stub).result = .error status → status.code ≠ .unavailable →
      report.result = .error (.call status) ∧ report.client = client ∧
        Effect transport report [live.stub] []
  /-- The number of a code that there is not counts as such a failure. -/
  unread : ∀ live number message, client.live = some live → number < 0 ∨ 16 < number →
    (call 0 live.stub).result = .error ⟨Code.ofInt number, message⟩ →
      report.result = .error (.call ⟨.unknown, message⟩) ∧ report.client = client ∧
        Effect transport report [live.stub] []
  /-- An unavailable endpoint is dialed once; if that fails, the call ends with it. -/
  lost : ∀ live status failure, client.live = some live →
    (call 0 live.stub).result = .error status → status.code = .unavailable →
      transport.nextOutcome = some failure →
        report.result = .error (.dial client.target.address failure) ∧
          report.client = { client with live := none } ∧
            Effect transport report [live.stub] [some failure]
  /-- If it connects, the second answer is given on, whatever it is. -/
  retried : ∀ live status, client.live = some live →
    (call 0 live.stub).result = .error status → status.code = .unavailable →
      transport.nextOutcome = none →
        report.result = (call 1 ⟨transport.generation + 1⟩).result.mapError .call ∧
          report.client.live.map (·.stub) = some ⟨transport.generation + 1⟩ ∧
            Effect transport report [live.stub, ⟨transport.generation + 1⟩] [none]
  /-- Without a connection the call dials first; if that fails, it does not run. -/
  refused : ∀ failure, client.live = none → transport.nextOutcome = some failure →
    report.result = .error (.dial client.target.address failure) ∧
      report.client = client ∧ Effect transport report [] [some failure]
  /-- If it connects, the first answer is given on, whatever it is. -/
  entered : client.live = none → transport.nextOutcome = none →
    report.result = (call 0 ⟨transport.generation + 1⟩).result.mapError .call ∧
      report.client.live.map (·.stub) = some ⟨transport.generation + 1⟩ ∧
        Effect transport report [⟨transport.generation + 1⟩] [none]
  /-- There is no more than one dial, and no third invocation. -/
  bounded : ∃ stubs dials, Effect transport report stubs dials ∧
    stubs.length ≤ 2 ∧ dials.length ≤ 1

theorem effect_concludedReport (client : Client) (call : Call α) (stub : Stub)
    (transport : Transport) :
    Effect transport (client.concludedReport call stub transport) [stub] [] :=
  ⟨rfl, by simp, by simp⟩

theorem effect_lost (client : Client) (call : Call α) (live : Live) (status : Status)
    {failure : String} {transport : Transport} (refused : transport.nextOutcome = some failure) :
    Effect transport
      (client.lostReport [live.stub] failure
        (client.failedTransport call live status transport) : CallReport α)
      [live.stub] [some failure] :=
  ⟨rfl, by simp, by simp [redialRecord, refused]⟩

theorem effect_retried (client : Client) (call : Call α) (live : Live) (status : Status)
    {transport : Transport} (accepted : transport.nextOutcome = none) :
    Effect transport
      ((client.renewed (client.failedTransport call live status transport)).retriedReport call
        live.stub ⟨transport.generation + 1⟩
        (client.renewedTransport (client.failedTransport call live status transport)))
      [live.stub, ⟨transport.generation + 1⟩] [none] :=
  ⟨rfl, by simp, by simp [redialRecord, accepted]⟩

theorem effect_refused (client : Client) {failure : String} {transport : Transport}
    (refused : transport.nextOutcome = some failure) :
    Effect transport (client.lostReport [] failure transport : CallReport α) []
      [some failure] :=
  ⟨rfl, by simp, by simp [redialRecord, refused]⟩

theorem effect_entered (client : Client) (call : Call α) {transport : Transport}
    (accepted : transport.nextOutcome = none) :
    Effect transport
      ((client.renewed transport).concludedReport call ⟨transport.generation + 1⟩
        (client.renewedTransport transport))
      [⟨transport.generation + 1⟩] [none] :=
  ⟨rfl, by simp, by simp [redialRecord, accepted]⟩

theorem call_of_returned {client : Client} {live : Live} {status : Status} {call : Call α}
    (connected : client.live = some live)
    (answered : (call 0 live.stub).result = .error status)
    (available : status.code ≠ .unavailable) (transport : Transport) :
    let report := client.call call transport
    report.result = .error (.call status) ∧ report.client = client ∧
      Effect transport report [live.stub] [] := by
  have final : ¬ Unavailable (call 0 live.stub).result := by
    rintro ⟨other, same, unavailable⟩
    rw [answered] at same
    cases same
    exact available unavailable
  intro report
  have path : report = client.concludedReport call live.stub transport :=
    call_of_concluded connected final transport
  rw [path]
  refine ⟨?_, rfl, effect_concludedReport client call live.stub transport⟩
  simp only [concludedReport, answered]
  rfl

/-- Every way a call can go has at most one dial and two invocations. -/
theorem CallPath.bounded {client : Client} {call : Call α} {transport : Transport}
    {report : CallReport α} (path : CallPath client call transport report) :
    ∃ stubs dials, Effect transport report stubs dials ∧
      stubs.length ≤ 2 ∧ dials.length ≤ 1 := by
  cases path with
  | concluded live connected final =>
      exact ⟨_, _, effect_concludedReport client call live.stub transport, by simp, by simp⟩
  | lost live status failure connected answered unavailable refused =>
      exact ⟨_, _, effect_lost client call live status refused, by simp, by simp⟩
  | retried live status connected answered unavailable accepted =>
      exact ⟨_, _, effect_retried client call live status accepted, by simp, by simp⟩
  | refused failure disconnected refused =>
      exact ⟨_, _, effect_refused client refused, by simp, by simp⟩
  | entered disconnected accepted =>
      exact ⟨_, _, effect_entered client call accepted, by simp, by simp⟩

/-- A call dials at most once and runs at most twice, and it gives on the last answer it
    got, or the failure of its dial. -/
theorem call_recoversOnce (client : Client) (call : Call α) (transport : Transport) :
    RecoversOnce client call transport (client.call call transport) where
  answered live value connected answered := by
    have final : ¬ Unavailable (call 0 live.stub).result := by
      rintro ⟨status, failed, _⟩
      rw [answered] at failed
      cases failed
    rw [call_of_concluded connected final]
    refine ⟨?_, rfl, effect_concludedReport client call live.stub transport⟩
    simp only [concludedReport, answered]
    rfl
  returned live status connected answered available :=
    call_of_returned connected answered available transport
  unread live number message connected beyond answered := by
    rw [Code.ofInt_eq_unknown beyond] at answered
    exact call_of_returned connected answered (by simp) transport
  lost live status failure connected answered unavailable refused := by
    rw [call_of_lost connected answered unavailable refused]
    exact ⟨rfl, rfl, effect_lost client call live status refused⟩
  retried live status connected answered unavailable accepted := by
    rw [call_of_retried connected answered unavailable accepted]
    refine ⟨rfl, ?_, effect_retried client call live status accepted⟩
    simp [retriedReport, renewed, nextLive]
  refused failure disconnected refused := by
    rw [call_of_refused disconnected call refused]
    exact ⟨rfl, by rw [lostReport, ← disconnected], effect_refused client refused⟩
  entered disconnected accepted := by
    rw [call_of_entered disconnected call accepted]
    exact ⟨rfl, rfl, effect_entered client call accepted⟩
  bounded := (client.callPath call transport).bounded

end Client

end RpcTransport
