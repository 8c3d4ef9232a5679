import RpcTransport.Text.Split

/-! # Dial targets

Where a client connects and how: an address and options in the order they were given. A
target never changes; every connection of a client is dialed with the same one.
-/

namespace RpcTransport

/-- A span of time: whole seconds and nanoseconds below one second. -/
structure Duration where
  seconds : Nat
  nanoseconds : Nat
  deriving Repr, DecidableEq

namespace Duration

def ofMillis (n : Nat) : Duration := ⟨n / 1000, n % 1000 * 1000000⟩

def ofSeconds (n : Nat) : Duration := ⟨n, 0⟩

end Duration

inductive DialOption where
  | connectTimeout (limit : Duration)
  | requestTimeout (limit : Duration)
  | tcpNoDelay (enabled : Bool)
  | tcpKeepalive (interval : Option Duration)
  | http2KeepAliveInterval (interval : Duration)
  | keepAliveTimeout (limit : Duration)
  | keepAliveWhileIdle (enabled : Bool)
  | userAgent (agent : String)
  | concurrencyLimit (limit : Nat)
  deriving Repr, DecidableEq

structure DialTarget where
  address : String
  options : List DialOption
  deriving Repr, DecidableEq

namespace DialTarget

def ofAddress (address : String) : DialTarget := ⟨address, []⟩

def withOption (target : DialTarget) (option : DialOption) : DialTarget :=
  { target with options := target.options ++ [option] }

def withOptions (target : DialTarget) (options : List DialOption) : DialTarget :=
  { target with options := target.options ++ options }

/-- The address as a URI; one without a scheme is dialed over plain HTTP/2. -/
def uriText (target : DialTarget) : List Char :=
  let address := target.address.toList
  if holdsWord "://".toList address then address else "http://".toList ++ address

theorem withOptions_append (target : DialTarget) (first second : List DialOption) :
    target.withOptions (first ++ second) = (target.withOptions first).withOptions second := by
  simp [withOptions]

end DialTarget

end RpcTransport
