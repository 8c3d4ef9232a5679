import RpcTransport.Address.HostPort
import RpcTransport.Address.Socket
import RpcTransport.Config.Schema
import RpcTransport.Text.Blank

/-! # Checking configurations

The rules that a decoded configuration has to keep. All faults are found at once, each
rule giving at most one.
-/

namespace RpcTransport

/-- A broken rule. The field is that of an address of the host. -/
inductive ConfigFault where
  | blankServiceName
  | malformedAddress (field address : String) (reason : SplitError)
  | malformedPort (field port : String)
  | sharedAddress
  | malformedMetricsAddress (address : String)
  deriving Repr, DecidableEq

namespace ConfigFault

def field : ConfigFault → String
  | blankServiceName => "host.service_name"
  | malformedAddress field _ _ => field
  | malformedPort field _ => field
  | sharedAddress => "host.bridge_address"
  | malformedMetricsAddress _ => "observability.metrics_address"

def message : ConfigFault → String
  | blankServiceName => "must not be empty"
  | malformedAddress _ address reason => s!"'{address}': {reason.message}"
  | malformedPort _ port => s!"invalid port '{port}'"
  | sharedAddress => "must differ from host.primary_address"
  | malformedMetricsAddress address => s!"'{address}' is not a socket address"

def text (fault : ConfigFault) : String :=
  s!"{fault.field}: {fault.message}"

end ConfigFault

def addressFaults (field address : String) : List ConfigFault :=
  match HostPort.split address.toList with
  | .error reason => [.malformedAddress field address reason]
  | .ok parts =>
    if (Decimal.readSignedPort? parts.port).isSome then []
    else [.malformedPort field (String.ofList parts.port)]

def HostConfig.bridgeFaults (config : HostConfig) : List ConfigFault :=
  if config.bridgeEnabled then
    addressFaults "host.bridge_address" config.bridgeAddress ++
      (if config.bridgeAddress = config.primaryAddress then [.sharedAddress] else [])
  else []

def ObservabilityConfig.faults (config : ObservabilityConfig) : List ConfigFault :=
  if config.metricsEnabled ∧ (SocketAddress.parse config.metricsAddress).isNone then
    [.malformedMetricsAddress config.metricsAddress]
  else []

/-- All faults of a configuration, in a fixed order of the rules. -/
def Config.faults (config : Config) : List ConfigFault :=
  (if isBlankText config.host.serviceName then [.blankServiceName] else []) ++
    addressFaults "host.primary_address" config.host.primaryAddress ++
    config.host.bridgeFaults ++
    config.observability.faults

def Config.check (config : Config) : Except (List ConfigFault) Unit :=
  match config.faults with
  | [] => .ok ()
  | faults => .error faults

end RpcTransport
