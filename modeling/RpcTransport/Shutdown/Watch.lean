/-! # A watched flag

Any number of senders replace the flag, and any number of waiters watch it. Each
replacement has a version of its own, so that a waiter can tell whether it has missed one,
and a waiter learns when the last sender is gone.
-/

namespace RpcTransport

/-- A flag with the number of its replacements and of those who can replace it. -/
structure Watch where
  flag : Bool := false
  version : Nat := 0
  senders : Nat := 1
  deriving Repr, DecidableEq

/-- What a waiter that has seen a version learns about changes since. -/
inductive Change where
  | changed
  /-- Nothing changed, and nobody is left to change anything. -/
  | closed
  | unchanged
  deriving Repr, DecidableEq

namespace Watch

def replace (watch : Watch) (flag : Bool) : Watch :=
  { watch with flag, version := watch.version + 1 }

def addSender (watch : Watch) : Watch :=
  { watch with senders := watch.senders + 1 }

def removeSender (watch : Watch) : Watch :=
  { watch with senders := watch.senders - 1 }

def changeSince (watch : Watch) (seen : Nat) : Change :=
  if watch.version ≠ seen then .changed
  else if watch.senders = 0 then .closed
  else .unchanged

end Watch

end RpcTransport
