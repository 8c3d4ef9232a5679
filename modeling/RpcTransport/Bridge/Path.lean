import RpcTransport.Http.Message
import RpcTransport.Observe.Notice

/-! # Paths of bridge requests

Browsers may send gRPC-Web requests below any path of the site they belong to. A service is
found under the last two segments of the path alone, so all segments before them are
stripped; nothing else of a request changes.
-/

namespace RpcTransport.Bridge

open Http (Request PathAndQuery Uri)

/-- The segments of a path that are not empty. -/
def segments (path : List Char) : List (List Char) :=
  (splitAll '/' path).filter (· ≠ [])

/-- The last two segments as a path of their own; `none` if there are no others. -/
def rootResourcePath (path : List Char) : Option (List Char) :=
  match (segments path).reverse with
  | method :: service :: _ :: _ => some ('/' :: service ++ '/' :: method)
  | _ => none

def grpcWebContentType : String := "application/grpc-web"

/-- The content type, if it can be read, is one of gRPC-Web. -/
def isGrpcWeb (headers : Http.Headers) : Bool :=
  match headers.text? "content-type" with
  | some value => (dropStart? grpcWebContentType.toList value.toList).isSome
  | none => false

/-- A path and query of their own, which are no longer than a whole target may be. -/
def readTarget? (text : List Char) : Option PathAndQuery :=
  if Http.maxUriBytes < (String.ofList text).utf8ByteSize then none else PathAndQuery.read? text

/-- A target with another path and query. An authority without a scheme takes none. -/
def replaceTarget? (uri : Uri) (target : PathAndQuery) : Option Uri :=
  match uri.scheme, uri.authority with
  | none, some _ => none
  | some _, none => none
  | _, _ => some { uri with target := some target }

def stripResourcePrefix {β : Type} (request : Request β) : Request β × List Notice :=
  if !isGrpcWeb request.headers then (request, [])
  else
    match rootResourcePath request.uri.path with
    | none => (request, [])
    | some path =>
      let text := match request.uri.query with
        | some query => path ++ '?' :: query
        | none => path
      match readTarget? text with
      | none => (request, [.pathKept "invalid uri character"])
      | some target =>
        match replaceTarget? request.uri target with
        | none => (request, [.pathKept "scheme missing"])
        | some uri =>
          ({ request with uri }, [.pathRewritten request.uri.text uri.text])

end RpcTransport.Bridge
