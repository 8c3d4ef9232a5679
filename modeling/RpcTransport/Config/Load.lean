import RpcTransport.Config.Check
import RpcTransport.Config.Decode
import RpcTransport.Files
import RpcTransport.Toml.Document

/-! # Loading configurations

A configuration file is TOML; what is read from it is also checked.
-/

namespace RpcTransport

inductive ConfigError where
  | unreadable (cause : FileError)
  /-- Not TOML, or a field of the wrong type. -/
  | malformed
  | invalid (faults : List ConfigFault)
  deriving Repr, DecidableEq

def ConfigError.message? : ConfigError → Option String
  | .unreadable cause => some s!"IO error: {cause.message}"
  | .malformed => none
  | .invalid faults =>
    some ("Validation failed: " ++ String.intercalate ", " (faults.map (·.text)))

namespace Config

def parse (text : String) : Except ConfigError Config :=
  match (Toml.parse text).bind (decode .toml) with
  | none => .error .malformed
  | some config =>
    match config.check with
    | .ok () => .ok config
    | .error faults => .error (.invalid faults)

def load (files : Files) (path : String) : Except ConfigError Config :=
  match files.text path with
  | .ok text => parse text
  | .error cause => .error (.unreadable cause)

end Config

end RpcTransport
