import RpcTransport.Guard.Guard
import RpcTransport.Observe.Notice
import RpcTransport.SystemConfig.Store
import RpcTransport.Url.Port

/-! # Ports from the service registry

The registry is the category `microservices`: an object with one entry for each service. An
entry may say where the bridge of its service is hosted; the ports of these addresses are
the allowed ones. Entries are visited in the order of their names.
-/

namespace RpcTransport

open Json (Value)

def bridgeUrlField : String := "rpcwebhostUrl"

/-- The port of a hosting address: a URL with a port, or `host:port` with any text for a
    port that is not empty. -/
def bridgePort? (address : String) : Option String :=
  let chars := address.toList
  if holdsWord "://".toList chars then (Url.port? chars).map toString
  else
    match splitAll ':' chars with
    | [_, port] => if port = [] then none else some (String.ofList port)
    | _ => none

namespace AllowedPorts

/-- Add the ports of entries, up to the first whose address is not text. -/
def addEntries (ports : AllowedPorts) :
    List (String × Value) → Except GuardError AllowedPorts × List Notice
  | [] => (.ok ports, [])
  | (service, entry) :: rest =>
    match entry.get? bridgeUrlField with
    | none => ports.addEntries rest
    | some field =>
      match field.string? with
      | none =>
        (.error (.invalidRegistry s!"{service}.{bridgeUrlField} must be a string"), [])
      | some address =>
        match bridgePort? address with
        | some port =>
          let (result, notices) := (ports.insert port).addEntries rest
          (result, .portRegistered service port :: notices)
        | none =>
          let (result, notices) := ports.addEntries rest
          (result, .hostingAddressIgnored service address :: notices)

def ofRegistry (registry : Value) : Except GuardError AllowedPorts × List Notice :=
  match registry.fields? with
  | none => (.error (.invalidRegistry "expected an object of service entries"), [])
  | some services =>
    if maxRegisteredServices < services.length then
      (.error (.tooManyServices services.length maxRegisteredServices), [])
    else addEntries empty services

/-- The ports of the registry in a system configuration; none without a registry. -/
def ofSystemConfig (config : SystemConfig) : Except GuardError AllowedPorts × List Notice :=
  match config.get? .microservices with
  | some registry => ofRegistry registry
  | none => (.ok empty, [.registryMissing Category.microservices.name])

end AllowedPorts

def Guard.ofSystemConfig (config : SystemConfig) : Except GuardError Guard × List Notice :=
  match AllowedPorts.ofSystemConfig config with
  | (.ok ports, notices) => (.ok ⟨ports⟩, notices ++ [.guardInitialized ports.toList])
  | (.error e, notices) => (.error e, notices)

end RpcTransport
