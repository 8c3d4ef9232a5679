import RpcTransport.Text.Split

/-! # Addresses of the form `host:port`

An address is split at its one colon; a host with colons of its own stands in brackets.
Neither half is interpreted: the port may be any text without a colon.
-/

namespace RpcTransport

/-- Why an address is neither `host:port` nor `[host]:port`. -/
inductive SplitError where
  | missingBracket
  | missingPort
  | tooManyColons
  /-- A host without brackets around it holds one. -/
  | unexpectedBracket
  deriving Repr, DecidableEq

def SplitError.message : SplitError → String
  | .missingBracket => "missing ']' in address"
  | .missingPort => "missing port in address"
  | .tooManyColons => "too many colons in address"
  | .unexpectedBracket => "unexpected bracket in address"

/-- The two halves of an address, without brackets. -/
structure HostPort where
  host : List Char
  port : List Char
  deriving Repr, DecidableEq

namespace HostPort

def splitBracketed (text : List Char) : Except SplitError HostPort :=
  match splitFirst? ']' text with
  | none => .error .missingBracket
  | some (host, ':' :: port) =>
    if ':' ∈ port then .error .tooManyColons else .ok ⟨host, port⟩
  | some (_, _) => .error .missingPort

def splitPlain (text : List Char) : Except SplitError HostPort :=
  match splitLast? ':' text with
  | none => .error .missingPort
  | some (host, port) =>
    if ':' ∈ host then .error .tooManyColons
    else if '[' ∈ host ∨ ']' ∈ host then .error .unexpectedBracket
    else .ok ⟨host, port⟩

def split : List Char → Except SplitError HostPort
  | '[' :: rest => splitBracketed rest
  | text => splitPlain text

example : split "[fe80::1]:443".toList = .ok ⟨"fe80::1".toList, "443".toList⟩ := rfl
example : split ":8080".toList = .ok ⟨[], "8080".toList⟩ := rfl
example : split "::1:9091".toList = .error .tooManyColons := rfl
example : split "[::1]9091".toList = .error .missingPort := rfl

end HostPort

end RpcTransport
