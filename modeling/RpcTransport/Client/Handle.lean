import RpcTransport.Client.Transport

/-! # Connection handles

A handle owns one reference to one connection and remembers the target that it was dialed
with. Redialing closes the connection before it dials again, so that it is gone also when
the dial fails.
-/

namespace RpcTransport

structure Handle where
  id : ConnectionId
  connection : Nat
  target : DialTarget
  deriving Repr, DecidableEq

namespace Handle

def connect (target : DialTarget) (transport : Transport) : Except String Handle × Transport :=
  match transport.dial target with
  | (.error failure, transport) => (.error failure, transport)
  | (.ok connection, transport) =>
    let (id, transport) := transport.drawIdentity
    (.ok ⟨id, connection, target⟩, transport.note (.connectionEstablished id target.address))

def close (handle : Handle) (transport : Transport) : Transport :=
  (transport.note (.connectionClosed handle.id handle.target.address)).release handle.connection

def redial (handle : Handle) (transport : Transport) : Except String Handle × Transport :=
  connect handle.target (handle.close transport)

end Handle

end RpcTransport
