import RpcTransport.Config.Decode

/-! # The fields of a configuration

Every field has a section, a name, a type and a default. A value is written for a content of its
type, and reading it gives that content and no other.
-/

namespace RpcTransport

open Json (Value)

inductive FieldType where
  | text
  | flag
  | word
  | format
  | path
  deriving Repr, DecidableEq

namespace FieldType

def Content : FieldType → Type
  | text => String
  | flag => Bool
  | word => UInt64
  | format => LogFormat
  | path => Option String

def Writes : (type : FieldType) → type.Content → Value → Prop
  | text, content, value => value = .string content
  | flag, content, value => value = .bool content
  | word, content, value => value = .integer (UInt64.toNat content)
  | format, content, value => value = .string (LogFormat.name content)
  | path, none, value => value = .null
  | path, some place, value => value = .string place

def reader (encoding : Encoding) : (type : FieldType) → Value → Option type.Content
  | text => Value.string?
  | flag => Value.bool?
  | word => Value.word64?
  | format => LogFormat.decode encoding
  | path => readPath?

end FieldType

inductive ConfigSection where
  | host
  | client
  | observability
  | system
  deriving Repr, DecidableEq

namespace ConfigSection

def name : ConfigSection → String
  | host => "host"
  | client => "client"
  | observability => "observability"
  | system => "system"

def Content : ConfigSection → Type
  | host => HostConfig
  | client => ClientConfig
  | observability => ObservabilityConfig
  | system => SystemSource

def decode (encoding : Encoding) : (part : ConfigSection) → Value → Option part.Content
  | host => HostConfig.decode encoding
  | client => ClientConfig.decode encoding
  | observability => ObservabilityConfig.decode encoding
  | system => SystemSource.decode encoding

end ConfigSection

def Config.part (config : Config) : (part : ConfigSection) → part.Content
  | .host => config.host
  | .client => config.client
  | .observability => config.observability
  | .system => config.system

inductive ConfigField : ConfigSection → Type where
  | serviceName : ConfigField .host
  | primaryAddress : ConfigField .host
  | bridgeEnabled : ConfigField .host
  | bridgeAddress : ConfigField .host
  | connectTimeout : ConfigField .client
  | requestTimeout : ConfigField .client
  | tcpNoDelay : ConfigField .client
  | keepaliveInterval : ConfigField .client
  | logLevel : ConfigField .observability
  | logFormat : ConfigField .observability
  | metricsEnabled : ConfigField .observability
  | metricsAddress : ConfigField .observability
  | path : ConfigField .system
  deriving Repr, DecidableEq

namespace ConfigField

variable {part : ConfigSection}

def name : ConfigField part → String
  | serviceName => "service_name"
  | primaryAddress => "primary_address"
  | bridgeEnabled => "bridge_enabled"
  | bridgeAddress => "bridge_address"
  | connectTimeout => "connect_timeout_ms"
  | requestTimeout => "request_timeout_ms"
  | tcpNoDelay => "tcp_nodelay"
  | keepaliveInterval => "keepalive_interval_secs"
  | logLevel => "log_level"
  | logFormat => "log_format"
  | metricsEnabled => "metrics_enabled"
  | metricsAddress => "metrics_address"
  | path => "path"

def type : ConfigField part → FieldType
  | serviceName | primaryAddress | bridgeAddress | logLevel | metricsAddress => .text
  | bridgeEnabled | tcpNoDelay | metricsEnabled => .flag
  | connectTimeout | requestTimeout | keepaliveInterval => .word
  | logFormat => .format
  | path => .path

def within : (field : ConfigField part) → part.Content → field.type.Content
  | serviceName, host => HostConfig.serviceName host
  | primaryAddress, host => HostConfig.primaryAddress host
  | bridgeEnabled, host => HostConfig.bridgeEnabled host
  | bridgeAddress, host => HostConfig.bridgeAddress host
  | connectTimeout, client => ClientConfig.connectTimeoutMs client
  | requestTimeout, client => ClientConfig.requestTimeoutMs client
  | tcpNoDelay, client => ClientConfig.tcpNoDelay client
  | keepaliveInterval, client => ClientConfig.keepaliveIntervalSecs client
  | logLevel, observability => ObservabilityConfig.logLevel observability
  | logFormat, observability => ObservabilityConfig.logFormat observability
  | metricsEnabled, observability => ObservabilityConfig.metricsEnabled observability
  | metricsAddress, observability => ObservabilityConfig.metricsAddress observability
  | path, system => SystemSource.path system

def content (field : ConfigField part) (config : Config) : field.type.Content :=
  field.within (config.part part)

def supplied? (field : ConfigField part) (root : Value) : Option Value :=
  (root.get? part.name).bind fun value => value.get? field.name

/-- The content is what is given for the field, or else its default. -/
def Fills (field : ConfigField part) (given : Option Value) (content : field.type.Content) :
    Prop :=
  match given with
  | some value => field.type.Writes content value
  | none => content = field.content {}

end ConfigField

section Types

variable {encoding : Encoding} {value : Value}

theorem string?_eq_some_iff {text : String} :
    value.string? = some text ↔ value = .string text := by
  cases value <;> simp [Value.string?]

theorem bool?_eq_some_iff {flag : Bool} : value.bool? = some flag ↔ value = .bool flag := by
  cases value <;> simp [Value.bool?]

/-- Just the integers that fit 64 bits without a sign are words. -/
theorem word64?_eq_some_iff {word : UInt64} :
    value.word64? = some word ↔ value = .integer word.toNat := by
  cases value with
  | integer number =>
      simp only [Value.word64?, Option.ite_none_right_eq_some, Option.some.injEq,
        Value.integer.injEq]
      constructor
      · rintro ⟨⟨nonnegative, below⟩, rfl⟩
        rw [UInt64.toNat_ofNat_of_lt' (by omega)]
        omega
      · rintro rfl
        have below := word.toNat_lt_size
        refine ⟨⟨by omega, by omega⟩, ?_⟩
        rw [Int.toNat_natCast, UInt64.ofNat_toNat]
  | _ => simp [Value.word64?]

theorem readPath?_eq_some_iff {content : Option String} :
    readPath? value = some content ↔ FieldType.path.Writes content value := by
  cases content <;> cases value <;> simp [readPath?, FieldType.Writes]

theorem ofName?_eq_some_iff {name : String} {format : LogFormat} :
    LogFormat.ofName? name = some format ↔ name = format.name := by
  constructor
  · intro found
    unfold LogFormat.ofName? at found
    split at found
    · cases found
      rfl
    · cases found
      rfl
    · cases found
  · rintro rfl
    exact LogFormat.ofName?_name format

theorem logFormat_decode_eq_some_iff {format : LogFormat}
    (plain : ∀ members, value ≠ .object members) :
    LogFormat.decode encoding value = some format ↔ value = .string format.name := by
  cases value with
  | string name => simp [LogFormat.decode, ofName?_eq_some_iff]
  | object members => exact absurd rfl (plain members)
  | _ => simp [LogFormat.decode]

theorem FieldType.reader_eq_some_iff {type : FieldType} {content : type.Content}
    (plain : type = .format → ∀ members, value ≠ .object members) :
    type.reader encoding value = some content ↔ type.Writes content value := by
  cases type with
  | text => exact string?_eq_some_iff
  | flag => exact bool?_eq_some_iff
  | word => exact word64?_eq_some_iff
  | format => exact logFormat_decode_eq_some_iff (plain rfl)
  | path => exact readPath?_eq_some_iff

end Types

end RpcTransport
