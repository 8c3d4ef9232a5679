import RpcTransport.Address.HostPort
import RpcTransport.Guard.Ports

/-! # The listener guard

The address of a bridge listener comes from configuration that is not trusted. Before a
socket is made, the guard checks that the network is a stream network, that the address
is a host and a port, and that the port is an allowed one other than 80. It does not look
at the host.
-/

namespace RpcTransport

inductive GuardError where
  | unsafeNetwork (network : String)
  | invalidAddress (address reason : String)
  | unsafePort (port : String)
  | tooManyServices (count max : Nat)
  | invalidRegistry (reason : String)
  deriving Repr, DecidableEq

namespace GuardError

def message : GuardError → String
  | unsafeNetwork network => s!"{network} is not a safe network type"
  | invalidAddress address reason => s!"{address} is not a valid host/port pair: {reason}"
  | unsafePort port => s!"{port} is not a safe port number"
  | tooManyServices count max =>
    s!"exceeded maximum allowed number of microservices ({count} > {max})"
  | invalidRegistry reason => s!"invalid microservice registry: {reason}"

def reason : GuardError → String
  | unsafeNetwork _ => "network"
  | invalidAddress _ _ => "address"
  | unsafePort _ => "port"
  | tooManyServices _ _ => "too_many_services"
  | invalidRegistry _ => "registry"

end GuardError

/-- The most services that are scanned, and the most ports that are allowed. -/
def maxRegisteredServices : Nat := 100

/-- The plain web port, on which no bridge ever listens. -/
def reservedWebPort : String := "80"

def AllowedPorts.ofPorts (ports : List String) : Except GuardError AllowedPorts :=
  if maxRegisteredServices < ports.length then
    .error (.tooManyServices ports.length maxRegisteredServices)
  else .ok (ofList ports)

structure Guard where
  allowed : AllowedPorts := .empty
  deriving DecidableEq

def Guard.validate (guard : Guard) (network address : String) : Except GuardError Unit :=
  if network ≠ "tcp4" ∧ network ≠ "tcp6" then .error (.unsafeNetwork network)
  else
    match HostPort.split address.toList with
    | .error e => .error (.invalidAddress address e.message)
    | .ok parts =>
      let port := String.ofList parts.port
      if port = reservedWebPort ∨ ¬ guard.allowed.contains port then .error (.unsafePort port)
      else .ok ()

end RpcTransport
