import RpcTransport.Proofs.Host.Lifecycle

/-! # Operations out of order

Each operation takes place in one state of a host and is refused in all others. A refused start
hands back what it had taken only because there was nothing left to take; so it rests on what
the host holds in each state, which every action keeps. A run then goes on as if what was
refused had never been tried.
-/

namespace RpcTransport

/-- The one state in which an operation takes place. -/
def HostOperation.due : HostOperation → HostState
  | .start => .constructed
  | .stop => .serving

theorem Host.Consistent.start_eq {host : Host} (consistent : host.Consistent)
    (other : host.state ≠ .constructed) (environment : HostEnvironment) (world : HostWorld) :
    host.start environment world = (.error (.invalidState .start host.state), host, world) := by
  obtain ⟨-, same⟩ := consistent.release (.inl other)
  have released : host.primaryListener = none := (congrArg Host.primaryListener same).symm
  rw [start_of_refused (.inl other), same, released]
  rfl

namespace HostRun

abbrev Result := Option (Except HostError Unit)

/-- A step of a run. What was put in between is told apart from the rest. -/
structure Step where
  environment : HostEnvironment
  action : HostAction
  inserted : Bool

def after (run : HostRun) (step : Step) : HostRun :=
  (run.act step.environment step.action).2

def record (run : HostRun) : List Step → List (Step × Result)
  | [] => []
  | step :: rest => (step, (run.act step.environment step.action).1) :: (run.after step).record rest

def Refuses (run : HostRun) (action : HostAction) : Prop :=
  ∃ host operation, run.host = some host ∧ action = .operation operation ∧
    host.state ≠ operation.due

def InsertsRefused (run : HostRun) (steps : List Step) : Prop :=
  ∀ before step behind, steps = before ++ step :: behind → step.inserted = true →
    (before.foldl after run).Refuses step.action

structure IgnoresRefusals (run : HostRun) : Prop where
  /-- A refusal says what was tried and where the host is, and changes nothing. -/
  refused : ∀ host operation, run.host = some host → host.state ≠ operation.due →
    ∀ environment, run.act environment (.operation operation) =
      (some (.error (.invalidState operation host.state)), run)
  /-- The other steps have the results that they have without the inserted ones. -/
  others : ∀ steps, run.InsertsRefused steps →
    (run.record steps).filter (fun entry => !entry.1.inserted) =
      run.record (steps.filter fun step => !step.inserted)
  /-- So has the run as a whole. -/
  last : ∀ steps, run.InsertsRefused steps →
    steps.foldl after run = (steps.filter fun step => !step.inserted).foldl after run

def Sound (run : HostRun) : Prop :=
  ∀ host, run.host = some host → host.Consistent

theorem Sound.kept {run : HostRun} (sound : run.Sound) (environment : HostEnvironment)
    (action : HostAction) : (run.act environment action).2.Sound := by
  obtain ⟨present, world⟩ := run
  cases present with
  | none => exact sound
  | some host =>
      cases action with
      | operation operation =>
          obtain ⟨after, later, acted, moved⟩ :=
            moves_act (sound host rfl) world environment operation
          rw [acted]
          intro other same
          cases same
          exact moved.consistent
      | discard =>
          intro other gone
          cases gone

theorem Reached.sound {config : HostConfig} {guard : Guard} {run : HostRun}
    (reached : Reached config guard run) : run.Sound := by
  apply reached.induction
  · intro environment world started after success
    obtain ⟨listener, sockets, -, rfl, -⟩ := eq_bound success
    intro host same
    cases same
    exact Host.consistent_bound config guard listener
  · intro run environment action sound
    exact sound.kept environment action

section Refused

variable {run : HostRun}

theorem Sound.act_of_refused (sound : run.Sound) {host : Host} {operation : HostOperation}
    (present : run.host = some host) (other : host.state ≠ operation.due)
    (environment : HostEnvironment) :
    run.act environment (.operation operation) =
      (some (.error (.invalidState operation host.state)), run) := by
  obtain ⟨_, world⟩ := run
  cases present
  cases operation with
  | start => simp only [act, (sound host rfl).start_eq other]
  | stop => simp only [act, Host.stop_of_refused other]

theorem Sound.after_of_refused (sound : run.Sound) {step : Step}
    (refused : run.Refuses step.action) : run.after step = run := by
  obtain ⟨host, operation, present, same, other⟩ := refused
  rw [after, same, sound.act_of_refused present other]

theorem insertsRefused_cons_iff {step : Step} {rest : List Step} :
    run.InsertsRefused (step :: rest) ↔
      (step.inserted = true → run.Refuses step.action) ∧
        (run.after step).InsertsRefused rest := by
  constructor
  · intro inserts
    refine ⟨inserts [] step rest rfl, ?_⟩
    intro before other behind same
    exact inserts (step :: before) other behind (congrArg (step :: ·) same)
  · rintro ⟨first, later⟩ before other behind same
    cases before with
    | nil =>
        cases same
        exact first
    | cons head before =>
        obtain ⟨rfl, rest⟩ := List.cons_eq_cons.mp same
        exact later before other behind rest

theorem Sound.without_inserted (sound : run.Sound) {steps : List Step}
    (inserts : run.InsertsRefused steps) :
    (run.record steps).filter (fun entry => !entry.1.inserted) =
        run.record (steps.filter fun step => !step.inserted) ∧
      steps.foldl after run = (steps.filter fun step => !step.inserted).foldl after run := by
  induction steps generalizing run with
  | nil => exact ⟨rfl, rfl⟩
  | cons step rest ih =>
      obtain ⟨first, later⟩ := insertsRefused_cons_iff.mp inserts
      have next : (run.after step).Sound := sound.kept step.environment step.action
      obtain ⟨results, last⟩ := ih next later
      cases mark : step.inserted with
      | true =>
          -- an inserted step leaves the run where the others find it
          have same := sound.after_of_refused (first mark)
          rw [same] at results last
          constructor
          · simpa [record, mark, same] using results
          · simpa [mark, same] using last
      | false =>
          constructor
          · simpa [record, mark] using results
          · simpa [mark] using last

end Refused

/-- Wherever a host gets, operations that are not due are refused and make no difference. -/
theorem reached_ignoresRefusals {config : HostConfig} {guard : Guard} {run : HostRun}
    (reached : Reached config guard run) : IgnoresRefusals run := by
  have sound := reached.sound
  constructor
  case refused =>
    intro host operation present other environment
    exact sound.act_of_refused present other environment
  case others =>
    intro steps inserts
    exact (sound.without_inserted inserts).1
  case last =>
    intro steps inserts
    exact (sound.without_inserted inserts).2

/-- A start is tried once more between a start, which loses the bridge, and a stop. -/
theorem ignoresRefusals_restart :
    let environment : HostEnvironment :=
      ⟨(⟨[], 40000, []⟩ : LocalNetwork).network, fun _ _ => .clean⟩
    let config : HostConfig := ⟨"unit", "127.0.0.1:0", true, "127.0.0.1:9091"⟩
    let step (operation : HostOperation) (inserted : Bool) : Step :=
      ⟨environment, .operation operation, inserted⟩
    let steps := [step .start false, step .start true, step .stop false]
    ∃ started after, start config {} environment {} = (.ok started, after) ∧
      started.InsertsRefused steps ∧
        (started.record steps).filter (fun entry => !entry.1.inserted) =
          started.record [step .start false, step .stop false] := by
  obtain ⟨listener, sockets, opened⟩ : ∃ listener sockets,
      ({} : Sockets).bind (⟨[], 40000, []⟩ : LocalNetwork).network "127.0.0.1:0" =
        (.ok listener, sockets) := ⟨_, _, rfl⟩
  intro environment config step steps
  have success : start config {} environment {} = (.ok _, _) := start_of_bind opened rfl
  have refused : (bound config {} {} listener sockets).InsertsRefused steps := by
    obtain ⟨serving, later, acted, moved⟩ := moves_act
      (Host.consistent_bound config {} listener) { sockets } environment .start
    have behind : (bound config {} {} listener sockets).after (step .start false) =
      ⟨some serving, later⟩ := acted
    have state : serving.state = .serving := moved.state
    have other : serving.state ≠ .constructed := by simp [state]
    simp only [steps, insertsRefused_cons_iff, behind]
    refine ⟨nofun, fun _ => ⟨serving, .start, rfl, rfl, other⟩, nofun, ?_⟩
    intro before step behind same
    simp at same
  have reached : Reached config {} (bound config {} {} listener sockets) :=
    ⟨environment, {}, _, _, [], success, rfl⟩
  exact ⟨_, _, success, refused, (reached_ignoresRefusals reached).others steps refused⟩

end HostRun

end RpcTransport
