import RpcTransport.Listener.Sockets

/-! # Resolving bind addresses

A bind address is a socket address, or a host and a port with the last colon between them.
A host that is an IP address stands for itself, also an IPv6 address without brackets,
whose scope may be the name of an interface, and an IPv4 address of fewer than four parts;
any other host is a name to look up.
-/

namespace RpcTransport

def looseIpv4Part? (text : List Char) : Option Nat :=
  let (base, digits) := Decimal.splitBase text
  if digits = [] then none else Decimal.readDigits? base digits

/-- One to four parts with dots between them, of which the last fills what the others leave
    of the four octets. -/
def Ipv4.readLoose? (text : List Char) : Option Ipv4 := do
  let parts ← allSome ((splitAll '.' text).map looseIpv4Part?)
  let last ← parts.getLast?
  if 4 < parts.length ∨ parts.dropLast.any (255 < ·) ∨ Nat.pow 256 (5 - parts.length) ≤ last then
    none
  else
    let value := parts.dropLast.zipIdx.foldl
      (fun value (part, i) => value + part * Nat.pow 256 (3 - i)) last
    let octet (i : Nat) : UInt8 := UInt8.ofNat (value / Nat.pow 256 i)
    return ⟨octet 3, octet 2, octet 1, octet 0⟩

/-- The scope written behind an IPv6 address: a number, or the name of an interface if the
    address belongs to one. -/
def Network.scope? (network : Network) (ip : Ipv6) (text : List Char) : Option UInt32 :=
  match network.interfaceNumber (String.ofList text) with
  | some number => if ip.needsInterface then some number else SocketAddress.readScope? text
  | none => SocketAddress.readScope? text

def Network.scoped? (network : Network) (host : List Char) : Option (Ipv6 × UInt32) :=
  match splitFirst? '%' host with
  | some (ip, scope) => do
    let ip ← Ipv6.read? ip
    return (ip, ← network.scope? ip scope)
  | none => do return (← Ipv6.read? host, 0)

def Network.numericHost? (network : Network) (host : List Char) : Option SocketAddress :=
  match Ipv4.readLoose? host with
  | some ip => some (.v4 ip 0)
  | none => (network.scoped? host).map fun (ip, scope) => .v6 ip scope 0

/-- The addresses of a host, with port 0, or why there are none. No name holds a NUL
    character. -/
def Network.hostAddresses (network : Network) (host : List Char) :
    Except String (List SocketAddress) :=
  if '\x00' ∈ host then .error "file name contained an unexpected NUL byte"
  else
    match network.numericHost? host with
    | some socket => .ok [socket]
    | none => network.lookup (String.ofList host)

def Network.resolve (network : Network) (address : String) :
    Except String (List SocketAddress) :=
  match SocketAddress.parse address with
  | some socket => .ok [socket]
  | none =>
    match splitLast? ':' address.toList with
    | none => .error "invalid socket address"
    | some (host, port) =>
      match Decimal.readSignedPort? port with
      | none => .error "invalid port value"
      | some port =>
        match network.hostAddresses host with
        | .error cause => .error cause
        | .ok found => .ok (found.map (·.withPort port))

end RpcTransport
