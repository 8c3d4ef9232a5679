import RpcTransport.Proofs.Client.CallPath

/-! # Runs from construction on

A run begins with a dial that connects, on a transport that nobody has used before. What
every action keeps, every run keeps.
-/

namespace RpcTransport

variable {α : Type}

namespace Transport

namespace SameHistory

variable (transport : Transport)

theorem trans {first second third : Transport} (before : SameHistory first second)
    (after : SameHistory second third) : SameHistory first third :=
  ⟨after.dials.trans before.dials, after.generation.trans before.generation,
    after.invocations.trans before.invocations⟩

theorem releaseAll (connections : List Nat) :
    SameHistory transport (transport.releaseAll connections) := by
  induction connections generalizing transport with
  | nil => exact ⟨rfl, rfl, rfl⟩
  | cons connection rest ih =>
      have first : SameHistory transport (transport.release connection) := ⟨rfl, rfl, rfl⟩
      exact first.trans (ih (transport.release connection))

theorem letGo (connection : Nat) : SameHistory transport (transport.letGo connection) := by
  simp only [Transport.letGo]
  split <;> exact ⟨rfl, rfl, rfl⟩

theorem letGoAll : SameHistory transport transport.letGoAll := by
  have unkept : SameHistory transport { transport with kept := [] } := ⟨rfl, rfl, rfl⟩
  exact unkept.trans (releaseAll _ transport.kept)

theorem close (client : Client) : SameHistory transport (client.close transport) := by
  simp only [Client.close, Client.release]
  cases client.live <;> exact ⟨rfl, rfl, rfl⟩

end SameHistory

end Transport

/-- A transport that nobody has dialed on. Its dialer, its identities and its journal may
    be anything. -/
def Transport.unused (script : List (Option String)) (fallback : Option String)
    (identities : Nat) (journal : Journal) : Transport :=
  { script, fallback, identities, journal }

namespace ClientRun

theorem acts_induction {P : ClientRun → Prop}
    (step : ∀ run (action : ClientAction α), P run → P (run.act action).2) {run : ClientRun}
    (start : P run) (actions : List (ClientAction α)) : P (run.acts actions) := by
  induction actions generalizing run with
  | nil => exact start
  | cons action rest ih => exact ih (step run action start)

def started (name : String) (target : DialTarget) (transport : Transport) : ClientRun :=
  ⟨some ⟨target, name, some ⟨Handle.next target transport, ⟨transport.generation + 1⟩⟩⟩,
    ((transport.established target).acquire (transport.generation + 1)).note
      (.clientConnected name target.address)⟩

theorem start_eq (name : String) (target : DialTarget) (transport : Transport) :
    start name target transport =
      match transport.nextOutcome with
      | some failure =>
          (.error (.dial target.address failure), transport.recordDial target)
      | none =>
          (.ok (started name target transport), (started name target transport).transport) := by
  simp only [start, Client.connect]
  cases outcome : transport.nextOutcome with
  | some failure => rw [Handle.connect_of_failure outcome]
  | none =>
      rw [Handle.connect_of_success outcome]
      rfl

theorem eq_started {name : String} {target : DialTarget} {transport after : Transport}
    {run : ClientRun} (success : start name target transport = (.ok run, after)) :
    transport.nextOutcome = none ∧ run = started name target transport := by
  rw [start_eq] at success
  cases outcome : transport.nextOutcome with
  | some failure => simp [outcome] at success
  | none =>
      simp only [outcome, Prod.mk.injEq, Except.ok.injEq] at success
      exact ⟨rfl, success.1.symm⟩

/-- What an action leads to: a call was made, or nothing was dialed or invoked. -/
inductive Step (α : Type) (run : ClientRun) : ClientRun → Prop where
  | called (client : Client) (call : Call α) (current : run.client = some client) :
      Step α run ⟨some (client.call call run.transport).client,
        (client.call call run.transport).transport⟩
  | quiet (client : Option Client) (transport : Transport)
      (same : run.transport.SameHistory transport)
      (unchanged : ∀ after, client = some after →
        ∃ before name, run.client = some before ∧ after = before.named name) :
      Step α run ⟨client, transport⟩

theorem step_act (run : ClientRun) (action : ClientAction α) :
    Step α run (run.act action).2 := by
  have unchanged : ∀ after, run.client = some after →
      ∃ before name, run.client = some before ∧ after = before.named name :=
    fun after current => ⟨after, after.name, current, rfl⟩
  cases action with
  | call call =>
      simp only [act]
      cases current : run.client with
      | none => exact .quiet _ _ ⟨rfl, rfl, rfl⟩ unchanged
      | some client => exact .called client call current
  | rename name =>
      refine .quiet _ _ ⟨rfl, rfl, rfl⟩ ?_
      intro after renamed
      obtain ⟨before, current, rfl⟩ := Option.map_eq_some_iff.mp renamed
      exact ⟨before, name, current, rfl⟩
  | close =>
      simp only [act]
      cases run.client with
      | none => exact .quiet _ _ ⟨rfl, rfl, rfl⟩ unchanged
      | some client =>
          refine .quiet _ _ (.close _ client) ?_
          intro after closed
          cases closed
  | keepStub =>
      simp only [act]
      split
      · exact .quiet _ _ ⟨rfl, rfl, rfl⟩ unchanged
      · exact .quiet _ _ ⟨rfl, rfl, rfl⟩ unchanged
  | releaseStub connection => exact .quiet _ _ (.letGo _ connection) unchanged
  | releaseStubs => exact .quiet _ _ (.letGoAll _) unchanged
  | script outcomes => exact .quiet _ _ ⟨rfl, rfl, rfl⟩ unchanged
  | fallback outcome => exact .quiet _ _ ⟨rfl, rfl, rfl⟩ unchanged

theorem Step.prefix_dials {run after : ClientRun} (step : Step α run after) :
    run.transport.dials <+: after.transport.dials := by
  cases step with
  | called client call current => exact (client.callPath call run.transport).prefix_dials
  | quiet client transport same unchanged =>
      exact ⟨[], (List.append_nil _).trans same.dials.symm⟩

theorem prefix_dials_acts (run : ClientRun) (actions : List (ClientAction α)) :
    run.transport.dials <+: (run.acts actions).transport.dials :=
  acts_induction (P := fun after => run.transport.dials <+: after.transport.dials)
    (fun between action before => before.trans (between.step_act action).prefix_dials)
    List.prefix_rfl actions

end ClientRun

end RpcTransport
