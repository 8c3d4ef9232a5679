import RpcTransport.Client.Resilient

/-! # Runs of a client

A client from its construction on, under calls, new names and its end, beside a caller
who may keep the stubs that calls are given.
-/

namespace RpcTransport

inductive ClientAction (α : Type) where
  | call (call : Call α)
  | rename (name : String)
  | close
  | keepStub
  /-- The caller lets go of a stub it kept, by the connection of the stub. -/
  | releaseStub (connection : Nat)
  | releaseStubs
  /-- Later dials will have these outcomes. -/
  | script (outcomes : List (Option String))
  /-- Dials behind the script will have this outcome. -/
  | fallback (outcome : Option String)

/-- A client, until it is closed. -/
structure ClientRun where
  client : Option Client
  transport : Transport
  deriving Repr, DecidableEq

structure CallAnswer (α : Type) where
  result : Except ClientError α
  stubs : List Stub

namespace ClientRun

def live? (run : ClientRun) : Option Live :=
  run.client.bind (·.live)

/-- Do one action. A call has an answer, unless the client is closed. -/
def act (run : ClientRun) : ClientAction α → Option (CallAnswer α) × ClientRun
  | .call call =>
    match run.client with
    | none => (none, run)
    | some client =>
      let report := client.call call run.transport
      (some ⟨report.result, report.stubs⟩, ⟨some report.client, report.transport⟩)
  | .rename name => (none, { run with client := run.client.map (·.named name) })
  | .close =>
    match run.client with
    | none => (none, run)
    | some client => (none, ⟨none, client.close run.transport⟩)
  | .keepStub =>
    match run.live? with
    | none => (none, run)
    | some live => (none, { run with transport := run.transport.keep live.stub.connection })
  | .releaseStub connection =>
    (none, { run with transport := run.transport.letGo connection })
  | .releaseStubs => (none, { run with transport := run.transport.letGoAll })
  | .script outcomes =>
    (none, { run with transport := run.transport.extendScript outcomes })
  | .fallback outcome =>
    (none, { run with transport := run.transport.setFallback outcome })

def start (name : String) (target : DialTarget) (transport : Transport) :
    Except ClientError ClientRun × Transport :=
  match Client.connect name target transport with
  | (.ok client, transport) => (.ok { client := some client, transport }, transport)
  | (.error e, transport) => (.error e, transport)

def acts (run : ClientRun) (actions : List (ClientAction α)) : ClientRun :=
  actions.foldl (fun run action => (run.act action).2) run

end ClientRun

end RpcTransport
