import RpcTransport.Http.Message

/-! # gRPC-Web

Requests of four content types are taken as gRPC requests, if they are posted; other
requests pass only over HTTP/2, where they may be plain gRPC.
-/

namespace RpcTransport.Bridge

open Http (Request Response Headers)

inductive WebEncoding where
  | binary
  | text
  deriving Repr, DecidableEq

namespace WebEncoding

def contentType : WebEncoding → String
  | binary => "application/grpc-web+proto"
  | text => "application/grpc-web-text+proto"

def ofContentType? : String → Option WebEncoding
  | "application/grpc-web" | "application/grpc-web+proto" => some binary
  | "application/grpc-web-text" | "application/grpc-web-text+proto" => some text
  | _ => none

end WebEncoding

inductive RequestKind where
  /-- A gRPC-Web call, with the encoding that its answer has to have. -/
  | webCall (answer : WebEncoding)
  /-- A content type of gRPC-Web with a method that makes no calls. -/
  | wrongMethod
  | other
  deriving Repr, DecidableEq

namespace RequestKind

/-- The kind of a request. An answer is binary unless the request accepts text. -/
def of (request : Request) : RequestKind :=
  match (request.headers.text? "content-type").bind WebEncoding.ofContentType? with
  | none => other
  | some _ =>
    if request.method ≠ "POST" then wrongMethod
    else
      webCall <|
        ((request.headers.text? "accept").bind WebEncoding.ofContentType?).getD .binary

end RequestKind

def toGrpcCall (request : Request) : Request :=
  { request with
    headers := (((request.headers.erase "content-length").set "content-type"
      "application/grpc").set "te" "trailers").set "accept-encoding" "identity,deflate,gzip" }

def emptyResponse (status : Nat) : Response := ⟨status, ⟨[]⟩⟩

/-- Let a request through to the services. The request that reaches them comes with the
    answer. -/
def webLayer (services : Request → Response) (request : Request) : Response × Option Request :=
  match RequestKind.of request with
  | .webCall answer =>
    let call := toGrpcCall request
    let response := services call
    ({ response with headers := response.headers.set "content-type" answer.contentType },
      some call)
  | .wrongMethod => (emptyResponse 405, none)
  | .other =>
    if request.version = .http2 then (services request, some request)
    else (emptyResponse 400, none)

end RpcTransport.Bridge
