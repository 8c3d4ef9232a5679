import RpcTransport.Listener.Bind

/-! # States and errors of a host

A host is constructed with its primary listener bound, then serves, then is stopped; no
other order is possible.
-/

namespace RpcTransport

inductive HostState where
  | constructed
  | serving
  | stopped
  deriving Repr, DecidableEq

def HostState.name : HostState → String
  | .constructed => "Constructed"
  | .serving => "Serving"
  | .stopped => "Stopped"

inductive HostOperation where
  | start
  | stop
  deriving Repr, DecidableEq

def HostOperation.name : HostOperation → String
  | .start => "start"
  | .stop => "stop"

inductive Server where
  | primary
  | bridge
  deriving Repr, DecidableEq

def Server.name : Server → String
  | .primary => "primary"
  | .bridge => "bridge"

inductive Ending where
  | clean
  | failed (message : String)
  | crashed (message : String)
  deriving Repr, DecidableEq

def Ending.failure? : Ending → Option String
  | .clean => none
  | .failed message => some message
  | .crashed message => some message

inductive HostError where
  | primaryBind (address : String) (source : ListenerError)
  | listenerRejected (address : String) (source : GuardError)
  | bridgeBind (address : String) (source : ListenerError)
  | invalidState (operation : HostOperation) (state : HostState)
  | serve (server : Server) (message : String)
  deriving Repr, DecidableEq

namespace HostError

def message : HostError → String
  | primaryBind address source =>
    s!"failed to bind primary listener on {address}: {source.message}"
  | listenerRejected address source =>
    s!"bridge listener on {address} rejected: {source.message}"
  | bridgeBind address source =>
    s!"failed to open bridge listener on {address}: {source.message}"
  | invalidState operation state =>
    s!"cannot {operation.name} a host that is {state.name}"
  | serve server message => s!"{server.name} server terminated abnormally: {message}"

def ofBridge (address : String) : ListenerError → HostError
  | .rejected error => listenerRejected address error
  | source => bridgeBind address source

end HostError

end RpcTransport
