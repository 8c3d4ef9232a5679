import RpcTransport.Address.Socket
import RpcTransport.Observe.Journal

/-! # Listening sockets

The listeners of a process and the attempts to open them. Whether a socket can be bound is
decided outside, by the network; a listener on port 0 gets a port that the network
assigns, and every other listener has the port that was asked for. The address of a listener
is read back from its socket, which may fail too.
-/

namespace RpcTransport

inductive ListenerRole where
  | primary
  | bridge
  | metrics
  deriving Repr, DecidableEq

structure Listener where
  number : Nat
  role : ListenerRole
  localAddress : SocketAddress
  deriving DecidableEq

structure Sockets where
  /-- What sockets were made for, oldest first. -/
  attempts : List (ListenerRole × SocketAddress) := []
  opened : Nat := 0
  listening : List Listener := []
  journal : Journal := {}
  deriving DecidableEq

/-- What the network decides. -/
structure Network where
  lookup : String → Except String (List SocketAddress)
  interfaceNumber : String → Option UInt32
  /-- The port to assign where none is asked for, or why an address cannot be bound. -/
  bind : Sockets → SocketAddress → Except String UInt16
  /-- Why the address of a bound listener cannot be read back, if it cannot. -/
  unreadable? : Sockets → Listener → Option String := fun _ _ => none

namespace Sockets

def note (sockets : Sockets) (notice : Notice) : Sockets :=
  { sockets with journal := sockets.journal.note notice }

def count (sockets : Sockets) (count : Count) : Sockets :=
  { sockets with journal := sockets.journal.count count }

/-- The address of a listener: the one asked for, with the assigned port in place of 0. -/
def localAddress (address : SocketAddress) (assigned : UInt16) : SocketAddress :=
  if address.port = 0 then address.withPort assigned else address

def openAt (sockets : Sockets) (network : Network) (role : ListenerRole)
    (address : SocketAddress) : Except String Listener × Sockets :=
  let tried := { sockets with attempts := sockets.attempts ++ [(role, address)] }
  match network.bind sockets address with
  | .error cause => (.error cause, tried)
  | .ok assigned =>
    let listener : Listener := ⟨sockets.opened, role, localAddress address assigned⟩
    (.ok listener,
      { tried with opened := sockets.opened + 1, listening := sockets.listening ++ [listener] })

def readAddress (sockets : Sockets) (network : Network) (listener : Listener) :
    Except String SocketAddress :=
  match network.unreadable? sockets listener with
  | some cause => .error cause
  | none => .ok listener.localAddress

theorem eq_of_readAddress {sockets : Sockets} {network : Network} {listener : Listener}
    {address : SocketAddress} (read : sockets.readAddress network listener = .ok address) :
    address = listener.localAddress := by
  unfold readAddress at read
  split at read
  · cases read
  · cases read
    rfl

def close (sockets : Sockets) (listener : Listener) : Sockets :=
  { sockets with listening := sockets.listening.filter fun other => other.number ≠ listener.number }

end Sockets

end RpcTransport
