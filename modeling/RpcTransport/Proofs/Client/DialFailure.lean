import RpcTransport.Proofs.Client.Reached

/-! # Failed dials and disconnected clients

A client is without a connection only behind a dial that failed, and the call that made this
dial ends with its error. Whenever a call asks for a stub there is one, so that no call ends
for the lack of a stub.
-/

namespace RpcTransport

variable {α : Type}

def lastFailure? (dials : List DialRecord) : Option String :=
  dials.getLast?.bind (·.failure)

@[simp] theorem lastFailure?_nil : lastFailure? [] = none := rfl

@[simp] theorem lastFailure?_singleton (record : DialRecord) :
    lastFailure? [record] = record.failure := rfl

theorem lastFailure?_append (earlier : List DialRecord) {later : List DialRecord}
    (more : later ≠ []) : lastFailure? (earlier ++ later) = lastFailure? later := by
  simp [lastFailure?, List.getLast?_append, List.getLast?_eq_some_getLast more]

namespace Client

/-- A call that made these dials ends with the answer of a stub, which stays, or with the
    error of its last dial, behind which there is no stub. -/
inductive Ending (client : Client) (report : CallReport α) (made : List DialRecord) : Prop where
  | answered (live : Live) (answer : Except Status α)
      (connected : report.client.live = some live)
      (given : report.result = answer.mapError .call) (last : lastFailure? made = none)
      (kept : made = [] → report.client = client) :
      Ending client report made
  | lost (failure : String) (disconnected : report.client.live = none)
      (given : report.result = .error (.dial client.target.address failure))
      (last : lastFailure? made = some failure) :
      Ending client report made

theorem mapError_call_ne_dial (answer : Except Status α) (address source : String) :
    answer.mapError .call ≠ .error (ClientError.dial address source) := by
  intro same
  cases answer <;> cases same

namespace Ending

variable {client : Client} {report : CallReport α} {made : List DialRecord}

theorem result_eq_dial_iff (ending : Ending client report made) (address source : String) :
    report.result = .error (.dial address source) ↔
      address = client.target.address ∧ lastFailure? made = some source := by
  cases ending with
  | answered live answer connected given last kept =>
      simp [given, last, mapError_call_ne_dial]
  | lost failure disconnected given last =>
      simp [given, last, eq_comm]

theorem live_eq_none_iff (ending : Ending client report made) :
    report.client.live = none ↔ (lastFailure? made).isSome := by
  cases ending with
  | answered live answer connected given last kept => simp [connected, last]
  | lost failure disconnected given last => simp [disconnected, last]

end Ending

theorem failure_redialRecord (client : Client) (transport : Transport) :
    (client.redialRecord transport).failure = transport.nextOutcome := rfl

theorem CallPath.ending {client : Client} {call : Call α} {transport : Transport}
    {report : CallReport α} (path : CallPath client call transport report) :
    ∃ made, report.transport.dials = transport.dials ++ made ∧ Ending client report made := by
  cases path with
  | concluded live connected final =>
      exact ⟨[], by simp, .answered live _ connected rfl rfl (fun _ => rfl)⟩
  | lost live status failure connected answered unavailable refused =>
      let failed := client.failedTransport call live status transport
      refine ⟨[client.redialRecord failed], by simp [failed], .lost failure rfl rfl ?_⟩
      simp [failure_redialRecord, failed, refused]
  | retried live status connected answered unavailable accepted =>
      let failed := client.failedTransport call live status transport
      refine ⟨[client.redialRecord failed], by simp [failed],
        .answered _ _ (live_renewed client failed) rfl ?_ nofun⟩
      simp [failure_redialRecord, failed, accepted]
  | refused failure disconnected refused =>
      refine ⟨[client.redialRecord transport], by simp, .lost failure rfl rfl ?_⟩
      simp [failure_redialRecord, refused]
  | entered disconnected accepted =>
      refine ⟨[client.redialRecord transport], by simp,
        .answered _ _ (live_renewed client transport) rfl ?_ nofun⟩
      simp [failure_redialRecord, accepted]

theorem currentStub_of_isConnected {client : Client} (connected : client.isConnected = true) :
    ∃ stub, client.currentStub = .ok stub := by
  obtain ⟨live, current⟩ := Option.isSome_iff_exists.mp connected
  exact ⟨live.stub, by simp only [currentStub, current]⟩

theorem eq_of_currentStub_eq_error {client : Client} {e : ClientError}
    (lacking : client.currentStub = .error e) :
    e = .dial client.target.address "no live connection" := by
  cases current : client.live with
  | some live =>
      simp only [currentStub, current] at lacking
      cases lacking
  | none =>
      simp only [currentStub, current, Except.error.injEq] at lacking
      exact lacking.symm

theorem isConnected_of_reconnectForCall {client : Client} {transport : Transport}
    (succeeded : (client.reconnectForCall transport).1 = .ok ()) :
    (client.reconnectForCall transport).2.1.isConnected = true := by
  cases outcome : transport.nextOutcome with
  | some failure =>
      rw [client.reconnectForCall_of_failure outcome] at succeeded
      cases succeeded
  | none =>
      rw [client.reconnectForCall_of_success outcome]
      rfl

structure TellsOfDials (client : Client) (transport : Transport) (report : CallReport α)
    (made : List DialRecord) : Prop where
  /-- These are the dials of the call. -/
  dialed : report.transport.dials = transport.dials ++ made
  /-- The client is disconnected behind the error of a dial, and behind no other result. -/
  disconnected : report.client.live = none ↔
    ∃ address source, report.result = .error (.dial address source)
  /-- There is such an error if and only if the last dial failed. -/
  failed : (∃ address source, report.result = .error (.dial address source)) ↔
    ∃ failure, lastFailure? made = some failure
  /-- It names the target, and its source is the error of that dial. -/
  source : ∀ address source, report.result = .error (.dial address source) →
    address = client.target.address ∧ lastFailure? made = some source
  /-- The error of a client without a stub is no exception: for a call to return it, a dial
      has to fail in the same words. -/
  recorded : ∀ (lacking : Client) (e : ClientError), lacking.currentStub = .error e →
    report.result = .error e → lastFailure? made = some "no live connection"
  /-- There is a stub whenever a call asks for one: on the connection it finds … -/
  found : client.isConnected = true → ∃ stub, client.currentStub = .ok stub
  /-- … and behind a reconnect, whatever came before it. -/
  restored : ∀ between, (client.reconnectForCall between).1 = .ok () →
    ∃ stub, (client.reconnectForCall between).2.1.currentStub = .ok stub

/-- A call ends with the error of its last dial if that failed, and exactly then it leaves
    the client disconnected. -/
theorem call_tellsOfDials (client : Client) (call : Call α) (transport : Transport) :
    ∃ made, TellsOfDials client transport (client.call call transport) made := by
  obtain ⟨made, dialed, ending⟩ := (client.callPath call transport).ending
  have failed : (∃ address source,
      (client.call call transport).result = .error (.dial address source)) ↔
        ∃ failure, lastFailure? made = some failure := by
    simp [ending.result_eq_dial_iff]
  refine ⟨made, dialed, ?_, failed, ?_, ?_, currentStub_of_isConnected, ?_⟩
  · rw [failed, ending.live_eq_none_iff, Option.isSome_iff_exists]
  · exact fun address source given => (ending.result_eq_dial_iff address source).mp given
  · intro lacking e missing given
    rw [eq_of_currentStub_eq_error missing, ending.result_eq_dial_iff] at given
    exact given.2
  · exact fun between succeeded =>
      currentStub_of_isConnected (isConnected_of_reconnectForCall succeeded)

end Client

namespace ClientRun

/-- A client that is there is disconnected if and only if the last dial failed. -/
def LastDialDecides (run : ClientRun) : Prop :=
  ∀ client, run.client = some client →
    (client.live = none ↔ (lastFailure? run.transport.dials).isSome)

/-- The dials of a call decide, and a call without one leaves the client as it is. -/
theorem LastDialDecides.step {run after : ClientRun} (decides : run.LastDialDecides)
    (step : Step α run after) : after.LastDialDecides := by
  cases step with
  | called client call current =>
      rintro _ ⟨⟩
      obtain ⟨made, dialed, ending⟩ := (client.callPath call run.transport).ending
      rw [dialed]
      cases made with
      | nil =>
          rw [List.append_nil, ← decides client current]
          cases ending with
          | answered live answer connected given last kept => rw [kept rfl]
          | lost failure disconnected given last => cases last
      | cons first rest =>
          rw [lastFailure?_append _ (List.cons_ne_nil first rest)]
          exact ending.live_eq_none_iff
  | quiet client transport same unchanged =>
      rintro after rfl
      obtain ⟨before, name, current, rfl⟩ := unchanged after rfl
      rw [same.dials]
      exact decides before current

/-- In every run a client is disconnected exactly while the last dial is one that failed. -/
theorem lastDialDecides_acts {name : String} {target : DialTarget} {transport after : Transport}
    {run : ClientRun} (success : start name target transport = (.ok run, after))
    (actions : List (ClientAction α)) : (run.acts actions).LastDialDecides := by
  obtain ⟨accepted, rfl⟩ := eq_started success
  have first : (started name target transport).LastDialDecides := by
    rintro _ ⟨⟩
    have dialed : (started name target transport).transport.dials =
        transport.dials ++ [⟨target, transport.live, transport.kept, transport.nextOutcome,
          transport.journal.notices.length⟩] := rfl
    rw [dialed, lastFailure?_append _ (List.cons_ne_nil _ _), lastFailure?_singleton, accepted]
    simp
  exact acts_induction (fun between action decides => decides.step (between.step_act action))
    first actions

end ClientRun

end RpcTransport
