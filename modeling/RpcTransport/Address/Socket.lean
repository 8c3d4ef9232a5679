import RpcTransport.Address.Ip

/-! # Socket addresses

An IP address with a TCP port: `1.2.3.4:80`, `[fe80::1%2]:443`. Names are not resolved
here, and the port may have leading zeros but no sign.
-/

namespace RpcTransport

inductive SocketAddress where
  | v4 (ip : Ipv4) (port : UInt16)
  | v6 (ip : Ipv6) (scope : UInt32) (port : UInt16)
  deriving DecidableEq

namespace SocketAddress

def readScope? (text : List Char) : Option UInt32 :=
  (Decimal.readBelow? UInt32.size text).map UInt32.ofNat

/-- An IPv6 address with an optional numeric scope, as it stands between the brackets. -/
def readScoped? (text : List Char) : Option (Ipv6 × UInt32) :=
  match splitFirst? '%' text with
  | some (ip, scope) => do return (← Ipv6.read? ip, ← readScope? scope)
  | none => do return (← Ipv6.read? text, 0)

def read? : List Char → Option SocketAddress
  | '[' :: rest =>
    match splitFirst? ']' rest with
    | some (inner, ':' :: port) => do
      let (ip, scope) ← readScoped? inner
      return .v6 ip scope (← Decimal.readPort? port)
    | _ => none
  | text =>
    match splitFirst? ':' text with
    | some (ip, port) => do return .v4 (← Ipv4.read? ip) (← Decimal.readPort? port)
    | none => none

def parse (text : String) : Option SocketAddress :=
  read? text.toList

def port : SocketAddress → UInt16
  | v4 _ port => port
  | v6 _ _ port => port

def withPort : SocketAddress → UInt16 → SocketAddress
  | v4 ip _, port => .v4 ip port
  | v6 ip scope _, port => .v6 ip scope port

/-- The address without its port, and without brackets and scope. -/
def ipText : SocketAddress → String
  | v4 ip _ => ip.text
  | v6 ip _ _ => ip.text

def text : SocketAddress → String
  | v4 ip port => s!"{ip.text}:{port.toNat}"
  | v6 ip scope port =>
    if scope = 0 then s!"[{ip.text}]:{port.toNat}"
    else s!"[{ip.text}%{scope.toNat}]:{port.toNat}"

def network : SocketAddress → String
  | v4 _ _ => "tcp4"
  | v6 _ _ _ => "tcp6"

end SocketAddress

end RpcTransport
