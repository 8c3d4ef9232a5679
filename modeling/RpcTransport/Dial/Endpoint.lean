import RpcTransport.Dial.Target
import RpcTransport.Http.Header
import RpcTransport.Http.Uri

/-! # Endpoints

An endpoint is what a target comes to once its URI is read and its options are applied in
order: each setting has the value of the last option of its kind. The URI is checked first,
and every user agent is checked, also one that a later option replaces.
-/

namespace RpcTransport

inductive EndpointError where
  | invalidUri
  | invalidUserAgent
  deriving Repr, DecidableEq

def EndpointError.message : EndpointError → String
  | .invalidUri => "invalid URI"
  | .invalidUserAgent => "user agent is not a valid header value"

structure Endpoint where
  uri : Http.Uri
  connectTimeout : Option Duration := none
  requestTimeout : Option Duration := none
  tcpNoDelay : Bool := true
  tcpKeepalive : Option Duration := none
  http2KeepAliveInterval : Option Duration := none
  keepAliveTimeout : Option Duration := none
  keepAliveWhileIdle : Option Bool := none
  userAgent : Option String := none
  concurrencyLimit : Option Nat := none
  deriving Repr, DecidableEq

namespace Endpoint

def socketFileUri : Http.Uri :=
  ⟨some "http".toList, some "tonic".toList, some ⟨['/'], none⟩⟩

/-- The endpoint of a URI, without options. An address behind `unix:` is a path, which is
    never malformed. -/
def ofUri (text : List Char) : Except EndpointError Endpoint :=
  match dropStart? "unix:".toList text with
  | some _ => .ok { uri := socketFileUri }
  | none =>
    match Http.Uri.read? text with
    | some uri => .ok { uri }
    | none => .error .invalidUri

def apply (endpoint : Endpoint) : DialOption → Except EndpointError Endpoint
  | .connectTimeout limit => .ok { endpoint with connectTimeout := some limit }
  | .requestTimeout limit => .ok { endpoint with requestTimeout := some limit }
  | .tcpNoDelay enabled => .ok { endpoint with tcpNoDelay := enabled }
  | .tcpKeepalive interval => .ok { endpoint with tcpKeepalive := interval }
  | .http2KeepAliveInterval interval =>
    .ok { endpoint with http2KeepAliveInterval := some interval }
  | .keepAliveTimeout limit => .ok { endpoint with keepAliveTimeout := some limit }
  | .keepAliveWhileIdle enabled => .ok { endpoint with keepAliveWhileIdle := some enabled }
  | .userAgent agent =>
    if Http.isValue agent then .ok { endpoint with userAgent := some agent }
    else .error .invalidUserAgent
  | .concurrencyLimit limit => .ok { endpoint with concurrencyLimit := some limit }

def applyAll (endpoint : Endpoint) : List DialOption → Except EndpointError Endpoint
  | [] => .ok endpoint
  | option :: rest =>
    match endpoint.apply option with
    | .ok endpoint => endpoint.applyAll rest
    | .error e => .error e

end Endpoint

def DialTarget.endpoint (target : DialTarget) : Except EndpointError Endpoint :=
  match Endpoint.ofUri target.uriText with
  | .ok endpoint => endpoint.applyAll target.options
  | .error e => .error e

end RpcTransport
