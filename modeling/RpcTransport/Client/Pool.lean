import RpcTransport.Client.Handle

/-! # Named connection handles

Any number of handles side by side, each in a slot with a name. Opening over an occupied
slot dials first and lets go of the old handle only when the dial succeeds; a redial that
fails leaves the slot empty.
-/

namespace RpcTransport

/-- Handles by the names of their slots, in the order the slots were first filled. -/
structure Pool where
  slots : List (String × Handle) := []
  transport : Transport := {}
  deriving Repr

inductive PoolAction where
  | establish (slot : String) (target : DialTarget)
  | redial (slot : String)
  | close (slot : String)
  deriving Repr, DecidableEq

namespace Pool

def get? (pool : Pool) (slot : String) : Option Handle :=
  pool.slots.lookup slot

def without (pool : Pool) (slot : String) : List (String × Handle) :=
  pool.slots.filter fun entry => entry.1 ≠ slot

def fill (slots : List (String × Handle)) (slot : String) (handle : Handle) :
    List (String × Handle) :=
  slots.filter (fun entry => entry.1 ≠ slot) ++ [(slot, handle)]

/-- Do one action; the error of its dial comes back with the pool. -/
def act (pool : Pool) : PoolAction → Option String × Pool
  | .establish slot target =>
    match Handle.connect target pool.transport with
    | (.error failure, transport) => (some failure, { pool with transport })
    | (.ok handle, transport) =>
      let transport := match pool.get? slot with
        | some old => old.close transport
        | none => transport
      (none, ⟨fill pool.slots slot handle, transport⟩)
  | .redial slot =>
    match pool.get? slot with
    | none => (none, pool)
    | some old =>
      match old.redial pool.transport with
      | (.error failure, transport) => (some failure, ⟨pool.without slot, transport⟩)
      | (.ok handle, transport) => (none, ⟨fill pool.slots slot handle, transport⟩)
  | .close slot =>
    match pool.get? slot with
    | none => (none, pool)
    | some old => (none, ⟨pool.without slot, old.close pool.transport⟩)

def run (pool : Pool) (actions : List PoolAction) : Pool :=
  actions.foldl (fun pool action => (pool.act action).2) pool

def closeAll (pool : Pool) : Pool :=
  ⟨[], pool.slots.foldl (fun transport entry => entry.2.close transport) pool.transport⟩

end Pool

end RpcTransport
