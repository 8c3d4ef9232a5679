import RpcTransport.Http.Message

/-! # Cross-origin access

Every origin, method and header is allowed, by answering with what the request names. A
request with the method `OPTIONS` only asks for permission and is answered at once.
-/

namespace RpcTransport.Bridge

open Http (Request Response Headers)

def permissionSeconds : Nat := 86400

def exposedHeaders : List String := ["grpc-status", "grpc-message", "grpc-status-details-bin"]

def varyingHeaders : List String :=
  ["origin", "access-control-request-method", "access-control-request-headers"]

/-- The first value of a request header under another name, if the request has it. -/
def mirrored (request : Request) (source target : String) : List (String × String) :=
  match request.headers.get? source with
  | some value => [(target, value)]
  | none => []

def varyHeader : String × String := ("vary", String.intercalate ", " varyingHeaders)

def isPreflight (request : Request) : Bool :=
  request.method = "OPTIONS"

def preflightResponse (request : Request) : Response :=
  ⟨200, ⟨varyHeader :: mirrored request "origin" "access-control-allow-origin" ++
    mirrored request "access-control-request-method" "access-control-allow-methods" ++
    mirrored request "access-control-request-headers" "access-control-allow-headers" ++
    [("access-control-max-age", toString permissionSeconds)]⟩⟩

/-- The headers of every other answer that replace those of the same names. -/
def accessHeaders (request : Request) : List (String × String) :=
  mirrored request "origin" "access-control-allow-origin" ++
    [("access-control-expose-headers", String.intercalate "," exposedHeaders)]

def allowAccess (request : Request) (response : Response) : Response :=
  let varied := response.headers.add varyHeader.1 varyHeader.2
  { response with
    headers := (accessHeaders request).foldl (fun headers entry => headers.set entry.1 entry.2)
      varied }

end RpcTransport.Bridge
