import RpcTransport.Http.Header
import RpcTransport.Http.Uri

/-! # HTTP requests and responses

Requests carry a body of any kind, which is nothing unless it matters; responses are without
theirs.
-/

namespace RpcTransport.Http

inductive Version where
  | http1
  | http2
  deriving Repr, DecidableEq

structure Request (β : Type := Unit) where
  method : String
  uri : Uri
  version : Version
  headers : Headers
  body : β
  deriving Repr, DecidableEq

structure Response where
  status : Nat
  headers : Headers
  deriving Repr, DecidableEq

def Request.parse (method uri : String) (version : Version) (headers : List (String × String)) :
    Option Request := do
  if !isToken method then none
  else return ⟨method, ← Uri.parse uri, version, ← Headers.ofPairs? headers, ()⟩

end RpcTransport.Http
