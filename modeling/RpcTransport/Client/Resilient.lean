import RpcTransport.Client.Handle

/-! # Resilient clients

A client keeps one connection and a stub built on it, and survives that the endpoint
behind its target changes. When a call fails as unavailable, the client closes its
connection, dials the target once more and makes the call a second time; every other
failure goes back to the caller. A client that lost its connection to a failed dial dials
at its next call, which is then the one dial of that call.
-/

namespace RpcTransport

/-- A stub: it makes calls over the connection it was built on, of which it keeps a
    reference of its own. -/
structure Stub where
  connection : Nat
  deriving Repr, DecidableEq

inductive ClientError where
  | dial (address source : String)
  | call (status : Status)
  deriving Repr, DecidableEq

namespace ClientError

def message : ClientError → String
  | dial address source => s!"failed to dial {address}: {source}"
  | call status => "rpc call failed: " ++ status.text

def code? : ClientError → Option Code
  | dial _ _ => none
  | call status => some status.code

def isDial : ClientError → Bool
  | dial _ _ => true
  | call _ => false

end ClientError

structure Live where
  handle : Handle
  stub : Stub
  deriving Repr, DecidableEq

structure Client where
  target : DialTarget
  name : String
  live : Option Live
  deriving Repr, DecidableEq

/-- What an invocation of a call answers, and whether it keeps the stub it was given. -/
structure Reply (α : Type) where
  result : Except Status α
  keepsStub : Bool

/-- A call: its answer for each attempt, counted from 0, on the stub of that attempt. -/
abbrev Call (α : Type) := Nat → Stub → Reply α

structure CallReport (α : Type) where
  result : Except ClientError α
  stubs : List Stub
  client : Client
  transport : Transport

namespace Client

def buildStub (handle : Handle) (transport : Transport) : Stub × Transport :=
  (⟨handle.connection⟩, transport.acquire handle.connection)

def connect (name : String) (target : DialTarget) (transport : Transport) :
    Except ClientError Client × Transport :=
  match Handle.connect target transport with
  | (.error failure, transport) => (.error (.dial target.address failure), transport)
  | (.ok handle, transport) =>
    let (stub, transport) := buildStub handle transport
    (.ok ⟨target, name, some ⟨handle, stub⟩⟩,
      transport.note (.clientConnected name target.address))

def named (client : Client) (name : String) : Client := { client with name }

def isConnected (client : Client) : Bool := client.live.isSome

def connectionId? (client : Client) : Option ConnectionId :=
  client.live.map (·.handle.id)

def redial (client : Client) (transport : Transport) : Except String Handle × Transport :=
  match client.live with
  | some live =>
    let transport := transport.note (.closingConnection client.name live.handle.id)
    -- the stub has a reference of its own, which has to go before the dial
    live.handle.redial (transport.release live.stub.connection)
  | none => Handle.connect client.target transport

/-- Replace the connection. The client is left disconnected if the dial fails. -/
def reconnect (client : Client) (transport : Transport) :
    Except ClientError Unit × Client × Transport :=
  match client.redial (transport.note (.reconnecting client.name client.target.address)) with
  | (.ok handle, transport) =>
    let (stub, transport) := buildStub handle transport
    let transport :=
      transport.note (.reconnected client.name client.target.address handle.id)
    (.ok (), { client with live := some ⟨handle, stub⟩ },
      transport.count (.reconnect client.name true))
  | (.error failure, transport) =>
    let transport :=
      transport.note (.reconnectFailed client.name client.target.address failure)
    (.error (.dial client.target.address failure), { client with live := none },
      transport.count (.reconnect client.name false))

/-- Replace the connection, counting the call as failed if that fails. -/
def reconnectForCall (client : Client) (transport : Transport) :
    Except ClientError Unit × Client × Transport :=
  match client.reconnect transport with
  | (.ok (), client, transport) => (.ok (), client, transport)
  | (.error e, client, transport) =>
    (.error e, client, transport.count (.call client.name .dialFailed))

def currentStub (client : Client) : Except ClientError Stub :=
  match client.live with
  | some live => .ok live.stub
  | none => .error (.dial client.target.address "no live connection")

/-- Let an attempt run on a stub. A reference for the attempt ends with it, unless the
    caller keeps the stub. -/
def invoke (call : Call α) (attempt : Nat) (stub : Stub) (transport : Transport) :
    Reply α × Transport :=
  let reply := call attempt stub
  let transport := transport.enter stub.connection
  (reply, if reply.keepsStub then transport.keep stub.connection else transport)

/-- The second attempt of a call, on a connection just made; `before` are the stubs given
    so far. -/
def retry (client : Client) (call : Call α) (before : List Stub) (transport : Transport) :
    CallReport α :=
  let transport := transport.note (.retryingCall client.name)
  match client.currentStub with
  | .error e => ⟨.error e, before, client, transport⟩
  | .ok stub =>
    let (reply, transport) := invoke call before.length stub transport
    let stubs := before ++ [stub]
    match reply.result with
    | .ok value =>
      ⟨.ok value, stubs, client, transport.count (.call client.name .recoveredOk)⟩
    | .error status =>
      let transport := transport.note (.retryFailed client.name status)
      ⟨.error (.call status), stubs, client,
        transport.count (.call client.name .recoveredFailed)⟩

/-- The first attempt of a call. `reconnected` says that this call has already dialed. -/
def attempt (client : Client) (call : Call α) (reconnected : Bool) (transport : Transport) :
    CallReport α :=
  match client.currentStub with
  | .error e => ⟨.error e, [], client, transport⟩
  | .ok stub =>
    let (reply, transport) := invoke call 0 stub transport
    match reply.result with
    | .ok value => ⟨.ok value, [stub], client, transport.count (.call client.name .ok)⟩
    | .error status =>
      let transport := transport.note (.callFailed client.name status)
      if status.retry ≠ .retryWithReconnect ∨ reconnected then
        let transport :=
          if status.retry = .retryOnly then
            transport.note (.failureReturned client.name status.code)
          else transport
        ⟨.error (.call status), [stub], client, transport.count (.call client.name .failed)⟩
      else
        match client.reconnectForCall transport with
        | (.error e, client, transport) => ⟨.error e, [stub], client, transport⟩
        | (.ok (), client, transport) => client.retry call [stub] transport

def call (client : Client) (call : Call α) (transport : Transport) : CallReport α :=
  if client.isConnected then client.attempt call false transport
  else
    match client.reconnectForCall transport with
    | (.error e, client, transport) => ⟨.error e, [], client, transport⟩
    | (.ok (), client, transport) => client.attempt call true transport

def release (client : Client) (transport : Transport) : Transport :=
  match client.live with
  | some live => (live.handle.close transport).release live.stub.connection
  | none => transport

def close (client : Client) (transport : Transport) : Transport :=
  client.release (transport.note (.clientClosed client.name client.target.address))

end Client

end RpcTransport
