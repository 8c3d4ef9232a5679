import RpcTransport.Bridge.Cors
import RpcTransport.Bridge.GrpcWeb
import RpcTransport.Bridge.Path

/-! # The bridge

What a request passes on its way to the services: first the check for cross-origin access,
then the path, then gRPC-Web. Each layer stands in front of those that were there before it.
-/

namespace RpcTransport.Bridge

open Http (Request Response)

structure Passage where
  response : Response
  /-- The request that reached the services, if one did. -/
  reached : Option Request
  notices : List Notice
  deriving Repr, DecidableEq

abbrev Handler := Request → Passage

def webHandler (services : Request → Response) : Handler := fun request =>
  let (response, reached) := webLayer services request
  ⟨response, reached, []⟩

def pathLayer (inner : Handler) : Handler := fun request =>
  let (stripped, notices) := stripResourcePrefix request
  let passage := inner stripped
  { passage with notices := notices ++ passage.notices }

/-- Answer requests for permission, and set the headers for cross-origin access in every other
    answer. -/
def accessLayer (inner : Handler) : Handler := fun request =>
  if isPreflight request then ⟨preflightResponse request, none, []⟩
  else
    let passage := inner request
    { passage with response := allowAccess request passage.response }

/-- A handler with layers in front of it, the last one outermost. -/
def layered (handler : Handler) (layers : List (Handler → Handler)) : Handler :=
  layers.foldl (fun inner layer => layer inner) handler

def handle (services : Request → Response) : Handler :=
  layered (webHandler services) [pathLayer, accessLayer]

end RpcTransport.Bridge
