import RpcTransport.Guard.Guard
import RpcTransport.Listener.Resolve

/-! # Binding listeners

The primary listener is bound to the first address that can be. For the bridge every
address passes the guard before a socket is made for it, so a refused one never touches the
network; the last failure counts.
-/

namespace RpcTransport

inductive ListenerError where
  | unresolved (address cause : String)
  | rejected (error : GuardError)
  | unbound (cause : String)
  deriving Repr, DecidableEq

def ListenerError.message : ListenerError → String
  | .unresolved address cause => s!"Failed to resolve {address}: {cause}"
  | .rejected error => s!"Listener rejected: {error.message}"
  | .unbound cause => s!"Failed to bind: {cause}"

namespace Sockets

/-- Bind the first of some addresses that can be; `cause` is why the one before could
    not. -/
def bindFirst (sockets : Sockets) (network : Network) (cause : String) :
    List SocketAddress → Except ListenerError Listener × Sockets
  | [] => (.error (.unbound cause), sockets)
  | address :: rest =>
    match sockets.openAt network .primary address with
    | (.ok listener, sockets) => (.ok listener, sockets)
    | (.error cause, sockets) => sockets.bindFirst network cause rest

/-- Bind a listener without a check. One whose address cannot be read back is closed. -/
def bind (sockets : Sockets) (network : Network) (address : String) :
    Except ListenerError Listener × Sockets :=
  match network.resolve address with
  | .error cause => (.error (.unbound cause), sockets)
  | .ok candidates =>
    match sockets.bindFirst network "could not resolve to any address" candidates with
    | (.ok listener, sockets) =>
      match sockets.readAddress network listener with
      | .ok address => (.ok listener, sockets.note (.listenerBound address.text))
      | .error cause => (.error (.unbound cause), sockets.close listener)
    | (.error e, sockets) => (.error e, sockets)

/-- Bind the first of some candidates that the guard accepts and that can be bound;
    `failure` is that of the candidate before. -/
def bindAccepted (sockets : Sockets) (network : Network) (guard : Guard)
    (failure : ListenerError) : List SocketAddress → Except ListenerError Listener × Sockets
  | [] => (.error failure, sockets)
  | candidate :: rest =>
    match guard.validate candidate.network candidate.text with
    | .error e =>
      let sockets :=
        (sockets.note (.bindRejected candidate.network candidate.text e.message)).count
          (.rejection e.reason)
      sockets.bindAccepted network guard (.rejected e) rest
    | .ok () =>
      match sockets.openAt network .bridge candidate with
      | (.ok listener, sockets) =>
        (.ok listener, sockets.note (.guardedBound candidate.network candidate.text))
      | (.error cause, sockets) => sockets.bindAccepted network guard (.unbound cause) rest

def guardedBind (sockets : Sockets) (network : Network) (guard : Guard) (address : String) :
    Except ListenerError Listener × Sockets :=
  match network.resolve address with
  | .error cause => (.error (.unresolved address cause), sockets)
  | .ok candidates =>
    sockets.bindAccepted network guard (.unresolved address "no addresses resolved") candidates

end Sockets

end RpcTransport
