import RpcTransport.Rpc.Retry
import RpcTransport.Text.Quoted

/-! # Notices

Everything the library reports while it works, as one type. A notice becomes an event with
a level, a message and named fields; an event belongs to the part of the library that
reports it, which is what log filters match.
-/

namespace RpcTransport

inductive Level where
  | trace
  | debug
  | info
  | warn
  | error
  deriving Repr, DecidableEq

def Level.name : Level → String
  | .trace => "TRACE"
  | .debug => "DEBUG"
  | .info => "INFO"
  | .warn => "WARN"
  | .error => "ERROR"

/-- The number of a level; higher ones matter more. -/
def Level.rank : Level → Nat
  | .trace => 1
  | .debug => 2
  | .info => 3
  | .warn => 4
  | .error => 5

/-- The identity of a connection; later connections have larger numbers. -/
structure ConnectionId where
  number : Nat
  deriving Repr, DecidableEq

def ConnectionId.text (id : ConnectionId) : String := s!"conn-{id.number}"

structure Event where
  level : Level
  source : String
  message : String
  fields : List (String × String)
  deriving Repr, DecidableEq

inductive Notice where
  | connectionEstablished (id : ConnectionId) (target : String)
  | connectionClosed (id : ConnectionId) (target : String)
  | clientConnected (client target : String)
  | callFailed (client : String) (status : Status)
  | failureReturned (client : String) (code : Code)
  | reconnecting (client target : String)
  | closingConnection (client : String) (id : ConnectionId)
  | reconnected (client target : String) (id : ConnectionId)
  | reconnectFailed (client target error : String)
  | retryingCall (client : String)
  | retryFailed (client : String) (status : Status)
  | clientClosed (client target : String)
  | listenerBound (address : String)
  | bindRejected (network address error : String)
  | guardedBound (network address : String)
  | primaryBindFailed (service address error : String)
  | grpcHosted (service address : String)
  | bridgeNotStarted (service address error : String)
  | grpcWebHosted (service address : String)
  | serverTerminated (server error : String)
  | tornDown (service : String)
  | portRegistered (service port : String)
  | hostingAddressIgnored (service value : String)
  | registryMissing (category : String)
  | guardInitialized (ports : List String)
  | guardInvalid (error : String)
  | systemConfigLoaded (path : String) (categories : Nat)
  | systemConfigMissing (path : String)
  | pathRewritten (uri rewritten : String)
  | pathKept (error : String)
  | starting (service version : String)
  | metricsListening (address : String)
  | stopFailed (error : String)
  | signalReceived
  | shutdownComplete
  deriving Repr, DecidableEq

namespace Notice

def event : Notice → Event
  | connectionEstablished id target =>
    ⟨.debug, "foundation_rpc::net::connection", "Connection established",
      [("connection_id", id.text), ("target", target)]⟩
  | connectionClosed id target =>
    ⟨.trace, "foundation_rpc::net::connection", "Connection closed",
      [("connection_id", id.text), ("target", target)]⟩
  | clientConnected client target =>
    ⟨.debug, "foundation_rpc::client::resilient", "Client connected",
      [("client", client), ("target", target)]⟩
  | callFailed client status =>
    ⟨.warn, "foundation_rpc::client::resilient", "Call failed",
      [("client", client), ("code", status.code.name), ("error", status.message),
       ("decision", status.retry.label)]⟩
  | failureReturned client code =>
    ⟨.info, "foundation_rpc::client::resilient", "Retryable failure returned to caller",
      [("client", client), ("code", code.name)]⟩
  | reconnecting client target =>
    ⟨.info, "foundation_rpc::client::resilient", "Reconnecting",
      [("client", client), ("target", target)]⟩
  | closingConnection client id =>
    ⟨.debug, "foundation_rpc::client::resilient", "Closing connection",
      [("client", client), ("connection_id", id.text)]⟩
  | reconnected client target id =>
    ⟨.info, "foundation_rpc::client::resilient", "Reconnected",
      [("client", client), ("target", target), ("connection_id", id.text)]⟩
  | reconnectFailed client target error =>
    ⟨.error, "foundation_rpc::client::resilient", "Failed to reconnect",
      [("client", client), ("target", target), ("error", error)]⟩
  | retryingCall client =>
    ⟨.info, "foundation_rpc::client::resilient", "Retrying call on new connection",
      [("client", client)]⟩
  | retryFailed client status =>
    ⟨.error, "foundation_rpc::client::resilient", "Retry failed",
      [("client", client), ("code", status.code.name), ("error", status.message)]⟩
  | clientClosed client target =>
    ⟨.debug, "foundation_rpc::client::resilient", "Client closed",
      [("client", client), ("target", target)]⟩
  | listenerBound address =>
    ⟨.info, "foundation_rpc::net::listener", "Listener bound", [("address", address)]⟩
  | bindRejected network address error =>
    ⟨.warn, "foundation_rpc::net::listener", "Listener guard rejected bind target",
      [("network", network), ("address", address), ("error", error)]⟩
  | guardedBound network address =>
    ⟨.info, "foundation_rpc::net::listener", "Guarded listener bound",
      [("network", network), ("address", address)]⟩
  | primaryBindFailed service address error =>
    ⟨.error, "foundation_rpc::host::server", "Failed to bind primary listener",
      [("service", service), ("address", address), ("error", error)]⟩
  | grpcHosted service address =>
    ⟨.info, "foundation_rpc::host::server", "gRPC server hosted",
      [("service", service), ("address", address)]⟩
  | bridgeNotStarted service address error =>
    ⟨.error, "foundation_rpc::host::server", "gRPC-Web bridge not started",
      [("service", service), ("address", address), ("error", error)]⟩
  | grpcWebHosted service address =>
    ⟨.info, "foundation_rpc::host::server", "gRPC-Web server hosted",
      [("service", service), ("address", address)]⟩
  | serverTerminated server error =>
    ⟨.error, "foundation_rpc::host::server", "Server terminated abnormally",
      [("server", server), ("error", error)]⟩
  | tornDown service =>
    ⟨.info, "foundation_rpc::host::server", "gRPC and gRPC-Web (if enabled) torn down",
      [("service", service)]⟩
  | portRegistered service port =>
    ⟨.debug, "foundation_rpc::security::listener_guard", "Registered bridge port",
      [("service", service), ("port", port)]⟩
  | hostingAddressIgnored service value =>
    ⟨.warn, "foundation_rpc::security::listener_guard",
      "Ignoring bridge hosting address without a usable port",
      [("service", service), ("value", value)]⟩
  | registryMissing category =>
    ⟨.warn, "foundation_rpc::security::listener_guard",
      "No microservice registry configured; bridge listeners will be rejected",
      [("category", category)]⟩
  | guardInitialized ports =>
    ⟨.info, "foundation_rpc::security::listener_guard", "Listener guard initialized",
      [("allowed_ports", Quoted.encodeList ports)]⟩
  | guardInvalid error =>
    ⟨.error, "foundation_rpc::lifecycle::startup", "Listener guard configuration is invalid",
      [("error", error)]⟩
  | systemConfigLoaded path categories =>
    ⟨.info, "foundation_rpc::config::system", "System configuration loaded",
      [("path", path), ("categories", toString categories)]⟩
  | systemConfigMissing path =>
    ⟨.warn, "foundation_rpc::lifecycle::startup",
      "System configuration not found, allow-list is empty", [("path", path)]⟩
  | pathRewritten uri rewritten =>
    ⟨.trace, "foundation_rpc::host::bridge", "Rewrote non-root resource path",
      [("from", uri), ("to", rewritten)]⟩
  | pathKept error =>
    ⟨.debug, "foundation_rpc::host::bridge", "Keeping original request path",
      [("error", error)]⟩
  | starting service version =>
    ⟨.info, "foundation_rpc::lifecycle::startup", "foundation-host starting",
      [("service", service), ("version", version)]⟩
  | metricsListening address =>
    ⟨.info, "foundation_rpc::observability::metrics", "Metrics exporter listening",
      [("address", address)]⟩
  | stopFailed error =>
    ⟨.warn, "foundation_rpc::lifecycle::startup", "Stop after failed start",
      [("error", error)]⟩
  | signalReceived =>
    ⟨.info, "foundation_rpc::lifecycle::signals", "Shutdown signal received", []⟩
  | shutdownComplete =>
    ⟨.info, "foundation_rpc::lifecycle::startup", "Shutdown complete", []⟩

end Notice

end RpcTransport
