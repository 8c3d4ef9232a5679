import RpcTransport.Dial.Target
import RpcTransport.Observe.Journal

/-! # Transport

The world that clients dial into. Whether a dial connects is decided outside: a script
lists the outcomes of the coming dials, and a fallback holds once the script is used up.
Connections are numbered by the successful dials and stay live as long as anything refers
to them; every reference is counted.
-/

namespace RpcTransport

structure DialRecord where
  target : DialTarget
  /-- The connections that were live when the dial began. -/
  live : List Nat
  kept : List Nat
  failure : Option String
  /-- How many notices had been reported when the dial began. -/
  reported : Nat
  deriving Repr, DecidableEq

def DialRecord.succeeded (record : DialRecord) : Bool := record.failure.isNone

structure Invocation where
  connection : Nat
  /-- How many dials had been made before. -/
  dials : Nat
  deriving Repr, DecidableEq

structure Transport where
  /-- The outcomes of the coming dials: an error, or `none` to connect. -/
  script : List (Option String) := []
  fallback : Option String := none
  dials : List DialRecord := []
  /-- How many dials have succeeded; the last of them made this connection. -/
  generation : Nat := 0
  identities : Nat := 0
  /-- One entry for each reference to a connection. -/
  references : List Nat := []
  /-- The connection of each stub that a caller keeps. -/
  kept : List Nat := []
  invocations : List Invocation := []
  journal : Journal := {}
  deriving Repr, DecidableEq

namespace Transport

/-- The connections that something refers to, each once. -/
def live (transport : Transport) : List Nat :=
  transport.references.eraseDups

def acquire (transport : Transport) (connection : Nat) : Transport :=
  { transport with references := connection :: transport.references }

def release (transport : Transport) (connection : Nat) : Transport :=
  { transport with references := transport.references.erase connection }

def releaseAll (transport : Transport) (connections : List Nat) : Transport :=
  connections.foldl release transport

def keep (transport : Transport) (connection : Nat) : Transport :=
  { transport.acquire connection with kept := connection :: transport.kept }

/-- A caller lets go of a stub, if it keeps one on the connection. -/
def letGo (transport : Transport) (connection : Nat) : Transport :=
  if connection ∈ transport.kept then
    { transport.release connection with kept := transport.kept.erase connection }
  else transport

def letGoAll (transport : Transport) : Transport :=
  releaseAll { transport with kept := [] } transport.kept

def enter (transport : Transport) (connection : Nat) : Transport :=
  { transport with
    invocations := transport.invocations ++ [⟨connection, transport.dials.length⟩] }

def note (transport : Transport) (notice : Notice) : Transport :=
  { transport with journal := transport.journal.note notice }

def count (transport : Transport) (count : Count) : Transport :=
  { transport with journal := transport.journal.count count }

def nextOutcome (transport : Transport) : Option String :=
  match transport.script with
  | outcome :: _ => outcome
  | [] => transport.fallback

def recordDial (transport : Transport) (target : DialTarget) : Transport :=
  { transport with
    script := transport.script.drop 1
    dials := transport.dials ++
      [⟨target, transport.live, transport.kept, transport.nextOutcome,
        transport.journal.notices.length⟩] }

/-- Dial a target. A new connection comes with one reference, which its owner holds. -/
def dial (transport : Transport) (target : DialTarget) : Except String Nat × Transport :=
  let dialed := transport.recordDial target
  match transport.nextOutcome with
  | some failure => (.error failure, dialed)
  | none =>
    let connection := transport.generation + 1
    (.ok connection, { dialed with generation := connection }.acquire connection)

def drawIdentity (transport : Transport) : ConnectionId × Transport :=
  (⟨transport.identities + 1⟩, { transport with identities := transport.identities + 1 })

def extendScript (transport : Transport) (outcomes : List (Option String)) : Transport :=
  { transport with script := transport.script ++ outcomes }

def setFallback (transport : Transport) (outcome : Option String) : Transport :=
  { transport with fallback := outcome }

section Fields

variable (transport : Transport) (notice : Notice) (event : Count)

@[simp] theorem dials_note : (transport.note notice).dials = transport.dials := rfl

@[simp] theorem invocations_note :
    (transport.note notice).invocations = transport.invocations := rfl

@[simp] theorem dials_count : (transport.count event).dials = transport.dials := rfl

@[simp] theorem invocations_count :
    (transport.count event).invocations = transport.invocations := rfl

end Fields

end Transport

end RpcTransport
