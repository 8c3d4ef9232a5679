import RpcTransport.Listener.Sockets

/-! # Local networks

A network as one machine without names shows it. Every IPv4 address can be bound, and of the
IPv6 addresses the one that stands for all and those that stand for IPv4 addresses; listeners
of this and of other processes keep their addresses.
-/

namespace RpcTransport

/-- What a machine has: the addresses on which other processes listen, the first port to
    assign, and the names of its interfaces, which are numbered from 1. -/
structure LocalNetwork where
  taken : List SocketAddress
  firstPort : UInt16
  interfaces : List String := ["lo"]

namespace LocalNetwork

def interfaceNumber (world : LocalNetwork) (name : String) : Option UInt32 :=
  (world.interfaces.findIdx? (· == name)).map fun i => UInt32.ofNat (i + 1)

def refusal? (world : LocalNetwork) : SocketAddress → Option String
  | .v4 _ _ => none
  | .v6 ip scope _ =>
    if ip.isUnspecified || ip.mapped?.isSome then none
    else if ip.isMulticast || (ip.isLinkLocal && scope == 0) then
      some "Invalid argument (os error 22)"
    else if ip.isLinkLocal && world.interfaces.length < scope.toNat then
      some "No such device (os error 19)"
    else some "Cannot assign requested address (os error 99)"

/-- The address without the detour over IPv6 that an IPv4 address may take. -/
def direct : SocketAddress → SocketAddress
  | .v4 ip port => .v4 ip port
  | .v6 ip scope port =>
    match ip.mapped? with
    | some v4 => .v4 v4 port
    | none => .v6 ip scope port

def isUnspecified : SocketAddress → Bool
  | .v4 ip _ => ip.isUnspecified
  | .v6 ip _ _ => ip.isUnspecified

/-- Two listeners cannot have the two addresses at once: their ports are the same, and one
    of them covers all addresses or both are the same. -/
def conflict (a b : SocketAddress) : Bool :=
  a.port == b.port &&
    (direct a == direct b || isUnspecified (direct a) || isUnspecified (direct b))

/-- The network as listeners see it. Ports are assigned upwards from the first. -/
def network (world : LocalNetwork) : Network where
  lookup _ := .error "failed to lookup address information: Name or service not known"
  interfaceNumber := world.interfaceNumber
  bind sockets address :=
    let others := world.taken ++ sockets.listening.map (·.localAddress)
    match world.refusal? address with
    | some cause => .error cause
    | none =>
      if address.port ≠ 0 ∧ others.any (conflict address) then
        .error "Address already in use (os error 98)"
      else .ok (world.firstPort + UInt16.ofNat sockets.opened)

end LocalNetwork

end RpcTransport
