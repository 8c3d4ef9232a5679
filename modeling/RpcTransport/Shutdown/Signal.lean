import RpcTransport.Shutdown.Watch

/-! # Shutdown signals

A signal is a wait for the flag of a watch to be raised. It looks at the flag, and while it
is down it waits for the next change; the end of all senders ends the wait too.
-/

namespace RpcTransport

structure Signal where
  seen : Nat
  /-- The flag was down when it was last looked at, so a change has to come first. -/
  waiting : Bool
  deriving Repr, DecidableEq

namespace Signal

def ofWatch (watch : Watch) : Signal := ⟨watch.version, false⟩

/-- Wait for a change; `none` when no sender is left. -/
def await (watch : Watch) (seen : Nat) : Option Signal :=
  match watch.changeSince seen with
  | .closed => none
  | _ => some ⟨seen, true⟩

/-- Look at the flag; `none` when it is up. -/
def look (watch : Watch) : Option Signal :=
  if watch.flag then none else await watch watch.version

/-- Go on with a wait; `none` when it has ended. -/
def poll (signal : Signal) (watch : Watch) : Option Signal :=
  if signal.waiting then
    match watch.changeSince signal.seen with
    | .changed => look watch
    | .closed => none
    | .unchanged => some signal
  else look watch

end Signal

end RpcTransport
