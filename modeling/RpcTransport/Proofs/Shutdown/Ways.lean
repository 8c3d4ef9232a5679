import RpcTransport.Shutdown.Run

/-! # The ways of an action

What each action does with coordinators and signals, if there is what it names. Laws about
actions are read off these ways.
-/

namespace RpcTransport

namespace ShutdownRun

def Lacks (run : ShutdownRun) : ShutdownAction → Prop
  | .create _ => False
  | .clone coordinator _ | .discard coordinator | .trigger coordinator
  | .isTriggered coordinator | .signal coordinator _ => run.coordinators.lookup coordinator = none
  | .poll signal => run.signals.lookup signal = none

inductive Way (run : ShutdownRun) : ShutdownAction → ShutdownAnswer × ShutdownRun → Prop where
  | unknown {action : ShutdownAction} (lacks : run.Lacks action) :
      Way run action (.unknown, run)
  | created (coordinator : String) :
      Way run (.create coordinator)
        (.done, ({ run with families := run.families ++ [({} : Watch)] } : ShutdownRun).bind
          coordinator run.families.length)
  | cloned {coordinator : String} (copy : String) {family : Nat}
      (named : run.coordinators.lookup coordinator = some family) :
      Way run (.clone coordinator copy) (.done, (run.modify family .addSender).bind copy family)
  | discarded {coordinator : String} {family : Nat}
      (named : run.coordinators.lookup coordinator = some family) :
      Way run (.discard coordinator) (.done, run.forget coordinator)
  | triggered {coordinator : String} {family : Nat}
      (named : run.coordinators.lookup coordinator = some family) :
      Way run (.trigger coordinator)
        (.triggered ((run.modify family (·.replace true)).watch family).flag,
          run.modify family (·.replace true))
  | asked {coordinator : String} {family : Nat}
      (named : run.coordinators.lookup coordinator = some family) :
      Way run (.isTriggered coordinator) (.triggered (run.watch family).flag, run)
  | signalled {coordinator : String} (signal : String) {family : Nat}
      (named : run.coordinators.lookup coordinator = some family) :
      Way run (.signal coordinator signal)
        (.done, { run with
          signals :=
            run.withoutSignal signal ++ [(signal, family, .ofWatch (run.watch family))] })
  | ended {signal : String} {family : Nat} {state : Signal}
      (found : run.signals.lookup signal = some (family, state))
      (ends : state.poll (run.watch family) = none) :
      Way run (.poll signal) (.ready, { run with signals := run.withoutSignal signal })
  | waits {signal : String} {family : Nat} {state later : Signal}
      (found : run.signals.lookup signal = some (family, state))
      (goes : state.poll (run.watch family) = some later) :
      Way run (.poll signal)
        (.pending, { run with
          signals := run.withoutSignal signal ++ [(signal, family, later)] })

theorem way_act (run : ShutdownRun) (action : ShutdownAction) :
    Way run action (run.act action) := by
  cases action with
  | create coordinator => exact .created coordinator
  | clone coordinator copy =>
      simp only [act]
      cases named : run.coordinators.lookup coordinator with
      | none => exact .unknown named
      | some family => exact .cloned copy named
  | discard coordinator =>
      simp only [act]
      cases named : run.coordinators.lookup coordinator with
      | none => exact .unknown named
      | some family => exact .discarded named
  | trigger coordinator =>
      simp only [act]
      cases named : run.coordinators.lookup coordinator with
      | none => exact .unknown named
      | some family => exact .triggered named
  | isTriggered coordinator =>
      simp only [act]
      cases named : run.coordinators.lookup coordinator with
      | none => exact .unknown named
      | some family => exact .asked named
  | signal coordinator signal =>
      simp only [act]
      cases named : run.coordinators.lookup coordinator with
      | none => exact .unknown named
      | some family => exact .signalled signal named
  | poll signal =>
      simp only [act]
      cases found : run.signals.lookup signal with
      | none => exact .unknown found
      | some entry =>
          obtain ⟨family, state⟩ := entry
          cases polled : state.poll (run.watch family) with
          | none => simpa only [polled] using .ended found polled
          | some later => simpa only [polled] using .waits found polled

theorem act_of_lacks {run : ShutdownRun} {action : ShutdownAction} (lacks : run.Lacks action) :
    run.act action = (.unknown, run) := by
  cases action with
  | create coordinator => exact lacks.elim
  | _ =>
      unfold Lacks at lacks
      simp only [act, lacks]

end ShutdownRun

end RpcTransport
