import RpcTransport.Shutdown.Signal

/-! # Coordinators of a shutdown

Coordinators that were cloned from one another form a family around one watch. Triggering
any of them raises the flag for all signals of the family, whenever they were made.
-/

namespace RpcTransport

/-- Coordinators and signals by name, each with the number of its family. -/
structure ShutdownRun where
  families : List Watch := []
  coordinators : List (String × Nat) := []
  signals : List (String × Nat × Signal) := []
  deriving Repr, DecidableEq

inductive ShutdownAction where
  | create (coordinator : String)
  | clone (coordinator copy : String)
  | discard (coordinator : String)
  | trigger (coordinator : String)
  | isTriggered (coordinator : String)
  | signal (coordinator signal : String)
  | poll (signal : String)
  deriving Repr, DecidableEq

inductive ShutdownAnswer where
  | done
  | triggered (value : Bool)
  | ready
  | pending
  | unknown
  deriving Repr, DecidableEq

namespace ShutdownRun

def watch (run : ShutdownRun) (family : Nat) : Watch :=
  run.families[family]?.getD { senders := 0 }

def modify (run : ShutdownRun) (family : Nat) (change : Watch → Watch) : ShutdownRun :=
  { run with families := run.families.modify family change }

def forget (run : ShutdownRun) (coordinator : String) : ShutdownRun :=
  match run.coordinators.lookup coordinator with
  | none => run
  | some family =>
    { run.modify family .removeSender with
      coordinators := run.coordinators.filter fun entry => entry.1 ≠ coordinator }

/-- Give a name to a coordinator of a family, in place of the one that had it. -/
def bind (run : ShutdownRun) (coordinator : String) (family : Nat) : ShutdownRun :=
  let run := run.forget coordinator
  { run with coordinators := run.coordinators ++ [(coordinator, family)] }

def withoutSignal (run : ShutdownRun) (signal : String) : List (String × Nat × Signal) :=
  run.signals.filter fun entry => entry.1 ≠ signal

def act (run : ShutdownRun) : ShutdownAction → ShutdownAnswer × ShutdownRun
  | .create coordinator =>
    let family := run.families.length
    (.done, { run with families := run.families ++ [({} : Watch)] }.bind coordinator family)
  | .clone coordinator copy =>
    match run.coordinators.lookup coordinator with
    | none => (.unknown, run)
    | some family => (.done, (run.modify family .addSender).bind copy family)
  | .discard coordinator =>
    match run.coordinators.lookup coordinator with
    | none => (.unknown, run)
    | some _ => (.done, run.forget coordinator)
  | .trigger coordinator =>
    match run.coordinators.lookup coordinator with
    | none => (.unknown, run)
    | some family =>
      let run := run.modify family (·.replace true)
      (.triggered (run.watch family).flag, run)
  | .isTriggered coordinator =>
    match run.coordinators.lookup coordinator with
    | none => (.unknown, run)
    | some family => (.triggered (run.watch family).flag, run)
  | .signal coordinator signal =>
    match run.coordinators.lookup coordinator with
    | none => (.unknown, run)
    | some family =>
      (.done, { run with
        signals := run.withoutSignal signal ++ [(signal, family, .ofWatch (run.watch family))] })
  | .poll signal =>
    match run.signals.lookup signal with
    | none => (.unknown, run)
    | some (family, state) =>
      match state.poll (run.watch family) with
      | none => (.ready, { run with signals := run.withoutSignal signal })
      | some state =>
        (.pending, { run with signals := run.withoutSignal signal ++ [(signal, family, state)] })

def acts (run : ShutdownRun) (actions : List ShutdownAction) : ShutdownRun :=
  actions.foldl (fun run action => (run.act action).2) run

end ShutdownRun

end RpcTransport
