/-! # Service registries

What a registrar adds services to. The registry knows the largest message that services
should take; each service has to be told.
-/

namespace RpcTransport

/-- The largest message that a hosted service takes, in bytes: one gibibyte. -/
def maxMessageSize : Nat := 1024 * 1024 * 1024

structure ServiceRegistry where
  maxMessageSize : Nat := maxMessageSize
  deriving Repr, DecidableEq

namespace ServiceRegistry

def text (registry : ServiceRegistry) : String :=
  s!"ServiceRegistry \x7b max_message_size: {registry.maxMessageSize}, .. \x7d"

def register (registry : ServiceRegistry) (registrar : ServiceRegistry → α) : α :=
  registrar registry

end ServiceRegistry

end RpcTransport
