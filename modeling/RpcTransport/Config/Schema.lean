import RpcTransport.Dial.Target

/-! # Configuration

What a hosted service and its clients are configured with. Every field has a default, so
that the empty configuration is a working one.
-/

namespace RpcTransport

structure HostConfig where
  serviceName : String := "foundation"
  primaryAddress : String := "0.0.0.0:50051"
  bridgeEnabled : Bool := false
  bridgeAddress : String := "0.0.0.0:9091"
  deriving Repr, DecidableEq

structure ClientConfig where
  connectTimeoutMs : UInt64 := 5000
  /-- Zero stands for no limit. -/
  requestTimeoutMs : UInt64 := 0
  tcpNoDelay : Bool := true
  /-- Zero stands for no pings. -/
  keepaliveIntervalSecs : UInt64 := 30
  deriving Repr, DecidableEq

namespace ClientConfig

/-- A limit that zero switches off, as the options it comes to. -/
def unlessZero (value : UInt64) (option : Nat → DialOption) : List DialOption :=
  if value = 0 then [] else [option value.toNat]

def dialOptions (config : ClientConfig) : List DialOption :=
  [.connectTimeout (.ofMillis config.connectTimeoutMs.toNat), .tcpNoDelay config.tcpNoDelay] ++
    unlessZero config.requestTimeoutMs (fun ms => .requestTimeout (.ofMillis ms)) ++
    unlessZero config.keepaliveIntervalSecs
      (fun seconds => .http2KeepAliveInterval (.ofSeconds seconds))

def dialTarget (config : ClientConfig) (address : String) : DialTarget :=
  (DialTarget.ofAddress address).withOptions config.dialOptions

end ClientConfig

inductive LogFormat where
  | pretty
  | json
  deriving Repr, DecidableEq

namespace LogFormat

def name : LogFormat → String
  | pretty => "pretty"
  | json => "json"

def ofName? : String → Option LogFormat
  | "pretty" => some pretty
  | "json" => some json
  | _ => none

theorem ofName?_name (format : LogFormat) : ofName? format.name = some format := by
  cases format <;> rfl

end LogFormat

structure ObservabilityConfig where
  logLevel : String := "info"
  logFormat : LogFormat := .pretty
  metricsEnabled : Bool := false
  metricsAddress : String := "127.0.0.1:9090"
  deriving Repr, DecidableEq

structure SystemSource where
  /-- A path that goes before all other places. -/
  path : Option String := none
  deriving Repr, DecidableEq

structure Config where
  host : HostConfig := {}
  client : ClientConfig := {}
  observability : ObservabilityConfig := {}
  system : SystemSource := {}
  deriving Repr, DecidableEq

end RpcTransport
