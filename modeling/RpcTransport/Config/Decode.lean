import RpcTransport.Config.Schema
import RpcTransport.Json.Value

/-! # Decoding configurations

A configuration is decoded from one value, field by field: a field that is missing keeps
its default, one of the wrong type fails the whole, and unknown fields do not matter. A
section may also be an array, which gives its fields by position.
-/

namespace RpcTransport

open Json (Value)

/-- The format a value was read from. The two differ where a section is an array and
    where a choice is written as an object. -/
inductive Encoding where
  | json
  | toml
  deriving Repr, DecidableEq

inductive Section where
  | named (fields : List (String × Value))
  | positional (items : List Value)

namespace Section

/-- A value as a section of `size` fields. JSON allows no more items than fields. -/
def ofValue? (encoding : Encoding) (size : Nat) : Value → Option Section
  | .object members => some (.named (Json.sortFields members))
  | .array items =>
    if encoding = .json ∧ size < items.length then none else some (.positional items)
  | _ => none

def get? (fields : Section) (position : Nat) (name : String) : Option Value :=
  match fields with
  | named fields => fields.lookup name
  | positional items => items[position]?

def read (fields : Section) (position : Nat) (name : String) (reader : Value → Option α)
    (missing : α) : Option α :=
  match fields.get? position name with
  | some value => reader value
  | none => some missing

end Section

/-- A value that carries no information, as it stands behind the name of a choice. -/
def isUnit : Encoding → Value → Bool
  | .json, .null => true
  | .toml, .object members => members.isEmpty
  | .toml, .array items => items.isEmpty
  | _, _ => false

/-- A log format: its name, or an object with the name as its only field. -/
def LogFormat.decode (encoding : Encoding) : Value → Option LogFormat
  | .string name => ofName? name
  | .object members =>
    match Json.sortFields members with
    | [(name, payload)] => if isUnit encoding payload then ofName? name else none
    | _ => none
  | _ => none

def readPath? : Value → Option (Option String)
  | .null => some none
  | .string path => some (some path)
  | _ => none

def HostConfig.decode (encoding : Encoding) (value : Value) : Option HostConfig := do
  let fields ← Section.ofValue? encoding 4 value
  let missing : HostConfig := {}
  return {
    serviceName := ← fields.read 0 "service_name" Value.string? missing.serviceName
    primaryAddress := ← fields.read 1 "primary_address" Value.string? missing.primaryAddress
    bridgeEnabled := ← fields.read 2 "bridge_enabled" Value.bool? missing.bridgeEnabled
    bridgeAddress := ← fields.read 3 "bridge_address" Value.string? missing.bridgeAddress }

def ClientConfig.decode (encoding : Encoding) (value : Value) : Option ClientConfig := do
  let fields ← Section.ofValue? encoding 4 value
  let missing : ClientConfig := {}
  return {
    connectTimeoutMs := ← fields.read 0 "connect_timeout_ms" Value.word64? missing.connectTimeoutMs
    requestTimeoutMs := ← fields.read 1 "request_timeout_ms" Value.word64? missing.requestTimeoutMs
    tcpNoDelay := ← fields.read 2 "tcp_nodelay" Value.bool? missing.tcpNoDelay
    keepaliveIntervalSecs :=
      ← fields.read 3 "keepalive_interval_secs" Value.word64? missing.keepaliveIntervalSecs }

def ObservabilityConfig.decode (encoding : Encoding) (value : Value) :
    Option ObservabilityConfig := do
  let fields ← Section.ofValue? encoding 4 value
  let missing : ObservabilityConfig := {}
  return {
    logLevel := ← fields.read 0 "log_level" Value.string? missing.logLevel
    logFormat := ← fields.read 1 "log_format" (LogFormat.decode encoding) missing.logFormat
    metricsEnabled := ← fields.read 2 "metrics_enabled" Value.bool? missing.metricsEnabled
    metricsAddress := ← fields.read 3 "metrics_address" Value.string? missing.metricsAddress }

def SystemSource.decode (encoding : Encoding) (value : Value) : Option SystemSource := do
  let fields ← Section.ofValue? encoding 1 value
  return { path := ← fields.read 0 "path" readPath? none }

def Config.decode (encoding : Encoding) (value : Value) : Option Config := do
  let fields ← Section.ofValue? encoding 4 value
  let missing : Config := {}
  return {
    host := ← fields.read 0 "host" (HostConfig.decode encoding) missing.host
    client := ← fields.read 1 "client" (ClientConfig.decode encoding) missing.client
    observability :=
      ← fields.read 2 "observability" (ObservabilityConfig.decode encoding) missing.observability
    system := ← fields.read 3 "system" (SystemSource.decode encoding) missing.system }

end RpcTransport
