import RpcTransport.Files
import RpcTransport.Json.Parser
import RpcTransport.Observe.Notice
import RpcTransport.SystemConfig.Category

/-! # The system configuration

One JSON object for a whole platform, whose fields are categories. A category is handed out
as it is: its readers interpret it.
-/

namespace RpcTransport

open Json (Value)

structure SystemConfig where
  sections : List (Category × Value) := []

inductive SystemConfigError where
  | missing (path : String)
  | unreadable (path : String) (cause : FileError)
  | malformed
  | notObject
  deriving Repr, DecidableEq

def SystemConfigError.message? : SystemConfigError → Option String
  | .missing path => some s!"{path} does not exist"
  | .unreadable path cause => some s!"failed to read {path}: {cause.message}"
  | .malformed => none
  | .notObject => some "system configuration root must be a JSON object"

namespace SystemConfig

def ofValue (root : Value) : Except SystemConfigError SystemConfig :=
  match root.fields? with
  | some fields => .ok ⟨fields.map fun field => (Category.ofName field.1, field.2)⟩
  | none => .error .notObject

def parse (text : String) : Except SystemConfigError SystemConfig :=
  match Json.parse text with
  | some root => ofValue root
  | none => .error .malformed

def get? (config : SystemConfig) (category : Category) : Option Value :=
  config.sections.lookup category

def has (config : SystemConfig) (category : Category) : Bool :=
  (config.get? category).isSome

/-- Read a file. Only a file that does not exist counts as missing. -/
def load (files : Files) (path : String) : Except SystemConfigError SystemConfig × List Notice :=
  match files.text path with
  | .error .missing => (.error (.missing path), [])
  | .error cause => (.error (.unreadable path cause), [])
  | .ok text =>
    match parse text with
    | .ok config => (.ok config, [.systemConfigLoaded path config.sections.length])
    | .error e => (.error e, [])

end SystemConfig

end RpcTransport
