import RpcTransport.Host.Host

/-! # Runs of a host

A host from its construction on, under any sequence of starts and stops, until it is
discarded.
-/

namespace RpcTransport

inductive HostAction where
  | operation (operation : HostOperation)
  | discard
  deriving Repr, DecidableEq

structure HostRun where
  host : Option Host
  world : HostWorld
  deriving DecidableEq

namespace HostRun

/-- Do one action. An operation on a host that is gone has no result. -/
def act (run : HostRun) (environment : HostEnvironment) (action : HostAction) :
    Option (Except HostError Unit) × HostRun :=
  match run.host with
  | none => (none, run)
  | some host =>
    match action with
    | .operation .start =>
      let (result, host, world) := host.start environment run.world
      (some result, ⟨some host, world⟩)
    | .operation .stop =>
      let (result, host, world) := host.stop environment run.world
      (some result, ⟨some host, world⟩)
    | .discard => (some (.ok ()), ⟨none, host.discard run.world⟩)

def acts (run : HostRun) (actions : List (HostEnvironment × HostAction)) : HostRun :=
  actions.foldl (fun run (environment, action) => (run.act environment action).2) run

def start (config : HostConfig) (guard : Guard) (environment : HostEnvironment)
    (world : HostWorld) : Except HostError HostRun × HostWorld :=
  match Host.bind config guard environment world with
  | (.ok host, world) => (.ok ⟨some host, world⟩, world)
  | (.error e, world) => (.error e, world)

end HostRun

end RpcTransport
