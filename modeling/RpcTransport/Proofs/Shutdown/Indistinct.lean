import RpcTransport.Proofs.Shutdown.Families

/-! # Runs that nobody can tell apart

Versions are counted for the sake of waits that have to notice a change. Nothing is answered
from them: two runs with the same coordinators, the same signals and the same flags are
answered alike for ever, however often their flags have been replaced.
-/

namespace RpcTransport

namespace ShutdownRun

def answers (run : ShutdownRun) : List ShutdownAction → List ShutdownAnswer
  | [] => []
  | action :: rest => (run.act action).1 :: (run.act action).2.answers rest

def waiting (run : ShutdownRun) : List (String × Nat) :=
  run.signals.map fun entry => (entry.1, entry.2.1)

/-- Nobody can tell two runs apart: they differ in what signals and watches count only. -/
structure Alike (run other : ShutdownRun) : Prop where
  coordinators : other.coordinators = run.coordinators
  waiting : other.waiting = run.waiting
  families : other.families.length = run.families.length
  flags : ∀ family, (other.watch family).flag = (run.watch family).flag

section Alike

variable {run other : ShutdownRun}

theorem waiting_withoutSignal (run : ShutdownRun) (signal : String) :
    (run.withoutSignal signal).map (fun entry => (entry.1, entry.2.1)) =
      run.waiting.filter fun entry => entry.1 ≠ signal := by
  unfold withoutSignal waiting
  rw [List.filter_map]
  rfl

theorem lookup_waiting (run : ShutdownRun) (signal : String) :
    run.waiting.lookup signal = (run.signals.lookup signal).map (·.1) := by
  unfold waiting
  induction run.signals with
  | nil => rfl
  | cons entry rest ih =>
      obtain ⟨name, family, state⟩ := entry
      simp only [List.map_cons, List.lookup_cons, ih]
      cases signal == name <;> rfl

theorem Alike.modify (alike : Alike run other) (family : Nat) {change : Watch → Watch}
    (respects : ∀ one another : Watch, another.flag = one.flag →
      (change another).flag = (change one).flag) :
    Alike (run.modify family change) (other.modify family change) := by
  constructor
  · exact alike.coordinators
  · exact alike.waiting
  · simpa [ShutdownRun.modify] using alike.families
  · intro member
    rw [watch_modify, watch_modify, alike.families]
    split
    · exact respects _ _ (alike.flags member)
    · exact alike.flags member

theorem Alike.forget (alike : Alike run other) (coordinator : String) :
    Alike (run.forget coordinator) (other.forget coordinator) := by
  cases named : run.coordinators.lookup coordinator with
  | none =>
      have unnamed := alike.coordinators ▸ named
      rwa [forget_of_unnamed named, forget_of_unnamed unnamed]
  | some family =>
      rw [forget_of_named named, forget_of_named (alike.coordinators ▸ named)]
      apply Alike.modify
      · have rest := congrArg (List.filter fun entry => entry.1 ≠ coordinator) alike.coordinators
        exact ⟨rest, alike.waiting, alike.families, alike.flags⟩
      · exact fun one another same => same

theorem Alike.bind (alike : Alike run other) (coordinator : String) (family : Nat) :
    Alike (run.bind coordinator family) (other.bind coordinator family) := by
  have forgotten := alike.forget coordinator
  constructor
  · exact congrArg (· ++ [(coordinator, family)]) forgotten.coordinators
  · exact forgotten.waiting
  · exact forgotten.families
  · exact forgotten.flags

theorem Alike.create (alike : Alike run other) :
    Alike { run with families := run.families ++ [({} : Watch)] }
      { other with families := other.families ++ [({} : Watch)] } := by
  constructor
  · exact alike.coordinators
  · exact alike.waiting
  · simp [alike.families]
  · intro family
    rw [flag_create, flag_create]
    exact alike.flags family

theorem Alike.drop (alike : Alike run other) (signal : String) :
    Alike { run with signals := run.withoutSignal signal }
      { other with signals := other.withoutSignal signal } := by
  constructor
  · exact alike.coordinators
  · have same := congrArg (List.filter fun entry => entry.1 ≠ signal) alike.waiting
    rwa [← waiting_withoutSignal, ← waiting_withoutSignal] at same
  · exact alike.families
  · exact alike.flags

theorem Alike.renew (alike : Alike run other) (signal : String) (family : Nat)
    (state another : Signal) :
    Alike { run with signals := run.withoutSignal signal ++ [(signal, family, state)] }
      { other with signals := other.withoutSignal signal ++ [(signal, family, another)] } := by
  have ended := alike.drop signal
  constructor
  · exact alike.coordinators
  · have same := congrArg (· ++ [(signal, family)]) ended.waiting
    simpa [ShutdownRun.waiting] using same
  · exact alike.families
  · exact alike.flags

theorem Alike.lookup (alike : Alike run other) (signal : String) :
    (other.signals.lookup signal).map (·.1) = (run.signals.lookup signal).map (·.1) := by
  rw [← lookup_waiting, ← lookup_waiting, alike.waiting]

theorem Alike.named (alike : Alike run other) {coordinator : String} {family : Nat}
    (named : run.coordinators.lookup coordinator = some family) :
    other.coordinators.lookup coordinator = some family := by
  rwa [alike.coordinators]

theorem Alike.lacks (alike : Alike run other) {action : ShutdownAction}
    (lacks : run.Lacks action) : other.Lacks action := by
  cases action with
  | create coordinator => exact lacks
  | poll signal =>
      have same := alike.lookup signal
      unfold Lacks at lacks
      rw [lacks] at same
      exact Option.map_eq_none_iff.mp same
  | _ =>
      unfold Lacks at lacks ⊢
      rwa [alike.coordinators]

theorem Alike.found (alike : Alike run other) (tallied : run.Tallied []) (also : other.Tallied [])
    {signal : String} {family : Nat} {state : Signal}
    (found : run.signals.lookup signal = some (family, state)) :
    ∃ another, other.signals.lookup signal = some (family, another) ∧
      (another.poll (other.watch family) = none ↔ state.poll (run.watch family) = none) := by
  have same := alike.lookup signal
  rw [found] at same
  obtain ⟨⟨_, another⟩, there, rfl⟩ := Option.map_eq_some_iff.mp same
  refine ⟨another, there, ?_⟩
  rw [also.poll_eq_none_iff there, tallied.poll_eq_none_iff found, alike.flags, Deserted, Deserted,
    alike.coordinators]

/-- Runs that are alike answer alike, and stay so. -/
theorem Alike.act (alike : Alike run other) (tallied : run.Tallied []) (also : other.Tallied [])
    (action : ShutdownAction) :
    (other.act action).1 = (run.act action).1 ∧ Alike (run.act action).2 (other.act action).2 := by
  have way := run.way_act action
  generalize run.act action = outcome at way
  cases way with
  | unknown lacks =>
      rw [act_of_lacks (alike.lacks lacks)]
      exact ⟨rfl, alike⟩
  | created coordinator => exact ⟨rfl, alike.families ▸ alike.create.bind coordinator _⟩
  | @cloned coordinator copy family named =>
      have added : Alike (run.modify family .addSender) (other.modify family .addSender) :=
        alike.modify family fun _ _ same => same
      simp only [ShutdownRun.act, alike.named named, true_and]
      exact added.bind copy family
  | discarded named =>
      simp only [ShutdownRun.act, alike.named named, true_and]
      exact alike.forget _
  | @triggered coordinator family named =>
      have raised : Alike (run.modify family (·.replace true))
          (other.modify family (·.replace true)) := alike.modify family fun _ _ _ => rfl
      simp only [ShutdownRun.act, alike.named named]
      exact ⟨congrArg _ (raised.flags family), raised⟩
  | asked named =>
      simp only [ShutdownRun.act, alike.named named]
      exact ⟨congrArg _ (alike.flags _), alike⟩
  | signalled signal named =>
      simp only [ShutdownRun.act, alike.named named, true_and]
      exact alike.renew signal _ _ _
  | ended found ends =>
      obtain ⟨another, there, ended⟩ := alike.found tallied also found
      simp only [ShutdownRun.act, there, ended.mpr ends, true_and]
      exact alike.drop _
  | @waits signal family state later found goes =>
      obtain ⟨another, there, ended⟩ := alike.found tallied also found
      -- the two waits may have seen different versions, but they end together
      have goesOn : another.poll (other.watch family) ≠ none := by
        intro ends
        cases goes.symm.trans (ended.mp ends)
      obtain ⟨next, polled⟩ := Option.ne_none_iff_exists'.mp goesOn
      simp only [ShutdownRun.act, there, polled, true_and]
      exact alike.renew signal family later next

theorem Alike.answers (alike : Alike run other) (tallied : run.Tallied [])
    (also : other.Tallied []) (actions : List ShutdownAction) :
    other.answers actions = run.answers actions := by
  induction actions generalizing run other with
  | nil => rfl
  | cons action rest ih =>
      obtain ⟨same, later⟩ := alike.act tallied also action
      have behind := ih later (tallied.act action) (also.act action)
      simp only [ShutdownRun.answers, same, behind]

end Alike

end ShutdownRun

end RpcTransport
