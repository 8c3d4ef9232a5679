import RpcTransport.Shutdown.Signal

/-! # Waits that overlook nothing

A wait may be looked at long after the flag went up, and the flag may have gone up between two
looks. What keeps a wait from sleeping through it is that the version it saw last is one at
which the flag was down, or one that has been left behind since.
-/

namespace RpcTransport

namespace Signal

/-- A wait that has not overlooked the flag. -/
structure Attentive (signal : Signal) (watch : Watch) : Prop where
  behind : signal.seen ≤ watch.version
  down : signal.waiting = true → signal.seen = watch.version → watch.flag = false

variable {signal : Signal} {watch : Watch}

theorem attentive_ofWatch (watch : Watch) : (ofWatch watch).Attentive watch := by
  constructor
  · exact Nat.le_refl watch.version
  · intro waiting
    cases waiting

theorem Attentive.congr (attentive : signal.Attentive watch) {other : Watch}
    (version : other.version = watch.version) (flag : other.flag = watch.flag) :
    signal.Attentive other := by
  constructor
  · rw [version]
    exact attentive.behind
  · rw [version, flag]
    exact attentive.down

theorem Attentive.replace (attentive : signal.Attentive watch) (flag : Bool) :
    signal.Attentive (watch.replace flag) := by
  have behind := attentive.behind
  constructor
  · exact Nat.le_succ_of_le behind
  · intro waiting seen
    simp only [Watch.replace] at seen
    omega

theorem look_eq_none_iff : look watch = none ↔ watch.flag = true ∨ watch.senders = 0 := by
  unfold look await Watch.changeSince
  cases watch.flag with
  | true => simp
  | false => by_cases gone : watch.senders = 0 <;> simp [gone]

/-- A wait has ended just if the flag is up or nobody is left to raise it. -/
theorem Attentive.poll_eq_none_iff (attentive : signal.Attentive watch) :
    signal.poll watch = none ↔ watch.flag = true ∨ watch.senders = 0 := by
  unfold poll
  cases waiting : signal.waiting with
  | false => exact look_eq_none_iff
  | true =>
      by_cases seen : watch.version = signal.seen
      · -- nothing has happened since the last look, which found the flag down
        have down := attentive.down waiting seen.symm
        by_cases gone : watch.senders = 0 <;> simp [Watch.changeSince, seen, gone, down]
      · have changed : watch.changeSince signal.seen = .changed := if_pos seen
        simp only [changed, if_true]
        exact look_eq_none_iff

theorem attentive_look {later : Signal} (goes : look watch = some later) :
    later.Attentive watch := by
  unfold look await at goes
  split at goes
  · cases goes
  · next down =>
      split at goes
      · cases goes
      · cases goes
        exact ⟨Nat.le_refl watch.version, fun _ _ => Bool.eq_false_iff.mpr down⟩

theorem Attentive.poll (attentive : signal.Attentive watch) {later : Signal}
    (goes : signal.poll watch = some later) : later.Attentive watch := by
  unfold Signal.poll at goes
  split at goes
  · split at goes
    · exact attentive_look goes
    · cases goes
    · cases goes
      exact attentive
  · exact attentive_look goes

end Signal

end RpcTransport
