import RpcTransport.Client.Run

/-! # Reconnects and calls, path by path

A reconnect first lets go of what the client holds, then dials, and then either builds a
stub on the new connection or leaves the client without one. A call invokes its stub once
if the first answer is final, and a second time if the reconnect after it succeeds. Every
path has one equation here; laws about calls are read off these equations.
-/

namespace RpcTransport

namespace Transport

theorem dial_of_failure {transport : Transport} {failure : String}
    (refused : transport.nextOutcome = some failure) (target : DialTarget) :
    transport.dial target = (.error failure, transport.recordDial target) := by
  simp only [dial, refused]

def dialed (transport : Transport) (target : DialTarget) : Transport :=
  { transport.recordDial target with generation := transport.generation + 1 }.acquire
    (transport.generation + 1)

theorem dial_of_success {transport : Transport} (accepted : transport.nextOutcome = none)
    (target : DialTarget) :
    transport.dial target = (.ok (transport.generation + 1), transport.dialed target) := by
  simp only [dial, accepted, dialed]

def established (transport : Transport) (target : DialTarget) : Transport :=
  (transport.dialed target).drawIdentity.2.note
    (.connectionEstablished ⟨transport.identities + 1⟩ target.address)

end Transport

namespace Handle

def next (target : DialTarget) (transport : Transport) : Handle :=
  ⟨⟨transport.identities + 1⟩, transport.generation + 1, target⟩

theorem connect_of_failure {transport : Transport} {failure : String}
    (refused : transport.nextOutcome = some failure) (target : DialTarget) :
    connect target transport = (.error failure, transport.recordDial target) := by
  simp only [connect, Transport.dial_of_failure refused]

theorem connect_of_success {transport : Transport} (accepted : transport.nextOutcome = none)
    (target : DialTarget) :
    connect target transport = (.ok (next target transport), transport.established target) := by
  simp only [connect, Transport.dial_of_success accepted]
  rfl

end Handle

namespace Client

/-- The target of the next dial: a handle is redialed with its own. -/
def redialTarget (client : Client) : DialTarget :=
  match client.live with
  | some live => live.handle.target
  | none => client.target

/-- Let go of what the client holds, the stub before the handle. -/
def vacate (client : Client) (transport : Transport) : Transport :=
  match client.live with
  | some live =>
    live.handle.close
      ((transport.note (.closingConnection client.name live.handle.id)).release
        live.stub.connection)
  | none => transport

def beforeDial (client : Client) (transport : Transport) : Transport :=
  client.vacate (transport.note (.reconnecting client.name client.target.address))

theorem redial_eq (client : Client) (transport : Transport) :
    client.redial transport = Handle.connect client.redialTarget (client.vacate transport) := by
  simp only [redial, redialTarget, vacate]
  cases client.live <;> rfl

section BeforeDial

variable (client : Client) (transport : Transport)

@[simp] theorem nextOutcome_beforeDial :
    (client.beforeDial transport).nextOutcome = transport.nextOutcome := by
  simp only [beforeDial, vacate]
  cases client.live <;> rfl

@[simp] theorem dials_beforeDial : (client.beforeDial transport).dials = transport.dials := by
  simp only [beforeDial, vacate]
  cases client.live <;> rfl

@[simp] theorem generation_beforeDial :
    (client.beforeDial transport).generation = transport.generation := by
  simp only [beforeDial, vacate]
  cases client.live <;> rfl

@[simp] theorem identities_beforeDial :
    (client.beforeDial transport).identities = transport.identities := by
  simp only [beforeDial, vacate]
  cases client.live <;> rfl

@[simp] theorem kept_beforeDial : (client.beforeDial transport).kept = transport.kept := by
  simp only [beforeDial, vacate]
  cases client.live <;> rfl

@[simp] theorem invocations_beforeDial :
    (client.beforeDial transport).invocations = transport.invocations := by
  simp only [beforeDial, vacate]
  cases client.live <;> rfl

end BeforeDial

def redialRecord (client : Client) (transport : Transport) : DialRecord :=
  ⟨client.redialTarget, (client.beforeDial transport).live, transport.kept,
    transport.nextOutcome, (client.beforeDial transport).journal.notices.length⟩

def nextLive (client : Client) (transport : Transport) : Live :=
  ⟨Handle.next client.redialTarget transport, ⟨transport.generation + 1⟩⟩

def renewed (client : Client) (transport : Transport) : Client :=
  { client with live := some (client.nextLive transport) }

theorem live_renewed (client : Client) (transport : Transport) :
    (client.renewed transport).live = some (client.nextLive transport) := rfl

def renewedTransport (client : Client) (transport : Transport) : Transport :=
  ((((client.beforeDial transport).established client.redialTarget).acquire
    (transport.generation + 1)).note
      (.reconnected client.name client.target.address ⟨transport.identities + 1⟩)).count
        (.reconnect client.name true)

def lostTransport (client : Client) (failure : String) (transport : Transport) : Transport :=
  (((client.beforeDial transport).recordDial client.redialTarget).note
    (.reconnectFailed client.name client.target.address failure)).count
      (.reconnect client.name false)

theorem reconnect_of_failure (client : Client) {transport : Transport} {failure : String}
    (refused : transport.nextOutcome = some failure) :
    client.reconnect transport =
      (.error (.dial client.target.address failure), { client with live := none },
        client.lostTransport failure transport) := by
  have dialed := Handle.connect_of_failure
    ((client.nextOutcome_beforeDial transport).trans refused) client.redialTarget
  rw [beforeDial] at dialed
  simp only [reconnect, redial_eq, dialed]
  rfl

theorem reconnect_of_success (client : Client) {transport : Transport}
    (accepted : transport.nextOutcome = none) :
    client.reconnect transport =
      (.ok (), client.renewed transport, client.renewedTransport transport) := by
  have dialed := Handle.connect_of_success
    ((client.nextOutcome_beforeDial transport).trans accepted) client.redialTarget
  simp only [beforeDial, Handle.next] at dialed
  simp only [reconnect, redial_eq, dialed, renewed, nextLive, Handle.next, renewedTransport,
    ← generation_beforeDial client transport, ← identities_beforeDial client transport]
  rfl

theorem reconnectForCall_of_failure (client : Client) {transport : Transport}
    {failure : String} (refused : transport.nextOutcome = some failure) :
    client.reconnectForCall transport =
      (.error (.dial client.target.address failure), { client with live := none },
        (client.lostTransport failure transport).count (.call client.name .dialFailed)) := by
  simp only [reconnectForCall, client.reconnect_of_failure refused]

theorem reconnectForCall_of_success (client : Client) {transport : Transport}
    (accepted : transport.nextOutcome = none) :
    client.reconnectForCall transport =
      (.ok (), client.renewed transport, client.renewedTransport transport) := by
  simp only [reconnectForCall, client.reconnect_of_success accepted]

section Fields

variable (client : Client) (failure : String) (transport : Transport)

@[simp] theorem dials_renewedTransport :
    (client.renewedTransport transport).dials =
      transport.dials ++ [client.redialRecord transport] := by
  rw [redialRecord, ← dials_beforeDial client transport, ← kept_beforeDial client transport,
    ← nextOutcome_beforeDial client transport]
  rfl

@[simp] theorem dials_lostTransport :
    (client.lostTransport failure transport).dials =
      transport.dials ++ [client.redialRecord transport] := by
  rw [redialRecord, ← dials_beforeDial client transport, ← kept_beforeDial client transport,
    ← nextOutcome_beforeDial client transport]
  rfl

@[simp] theorem generation_renewedTransport :
    (client.renewedTransport transport).generation = transport.generation + 1 := by
  rw [← generation_beforeDial client transport]
  rfl

@[simp] theorem generation_lostTransport :
    (client.lostTransport failure transport).generation = transport.generation :=
  client.generation_beforeDial transport

@[simp] theorem invocations_renewedTransport :
    (client.renewedTransport transport).invocations = transport.invocations :=
  client.invocations_beforeDial transport

@[simp] theorem invocations_lostTransport :
    (client.lostTransport failure transport).invocations = transport.invocations :=
  client.invocations_beforeDial transport

end Fields

end Client

end RpcTransport
