import RpcTransport.Config.Check
import RpcTransport.Proofs.Address.SocketLiteral

/-! # Addresses of listeners in a configuration

The check splits the address of a listener and reads its port, whatever the host; a socket
address is read from a text in one go. Where the host is a literal, both agree on the port
of every text, but for the plus sign that only the check allows in front of a port.
-/

namespace RpcTransport

open HostPort (Bracketed Plain)

/-- No plus sign stands behind the last colon. -/
def Unsigned (text : List Char) : Prop :=
  ∀ before behind, text = before ++ ':' :: behind → ':' ∉ behind → behind.head? ≠ some '+'

theorem Unsigned.of_written {text host port : List Char} (unsigned : Unsigned text)
    (written : HostPort.Written text ⟨host, port⟩) : port.head? ≠ some '+' := by
  obtain ⟨before, form, last⟩ := written.exists_before
  exact unsigned before port form last

theorem addressFaults_of_written {address : String} {host port : List Char} {number : UInt16}
    (written : HostPort.Written address.toList ⟨host, port⟩)
    (read : Decimal.readSignedPort? port = some number) (field : String) :
    addressFaults field address = [] := by
  rw [addressFaults, HostPort.split_eq_ok_iff.mpr written]
  exact if_pos (by rw [read]; rfl)

namespace SocketAddress

/-- The host stands for an IP address, in the form for its family. -/
def HasLiteralHost (text host port : List Char) : Prop :=
  (Plain text host port ∧ ∃ ip : Ipv4, host = ip.text.toList) ∨
    Bracketed text host port ∧ ∃ ip scope, ScopedLiteral host ip scope

theorem hasLiteralHost_iff {text host port : List Char} (number : UInt16) :
    HasLiteralHost text host port ↔
      ∃ socket, HostLiteral text host port socket ∧ socket.port = number := by
  constructor
  · rintro (⟨plain, ip, form⟩ | ⟨bracketed, ip, scope, literal⟩)
    · exact ⟨.v4 ip number, ⟨plain, form⟩, rfl⟩
    · exact ⟨.v6 ip scope number, ⟨bracketed, literal⟩, rfl⟩
  · rintro ⟨socket, literal, -⟩
    cases socket with
    | v4 ip number => exact .inl ⟨literal.1, ip, literal.2⟩
    | v6 ip scope number => exact .inr ⟨literal.1, ip, scope, literal.2⟩

structure AgreesWithCheck (address : String) : Prop where
  /-- Without a sign, an address is a socket address just if its host is a literal and the
      port of the check is a number. -/
  literal : Unsigned address.toList → ∀ number : UInt16,
    (∃ socket, parse address = some socket ∧ socket.port = number) ↔
      ∃ host port, HostPort.split address.toList = .ok ⟨host, port⟩ ∧
        Decimal.readSignedPort? port = some number ∧ HasLiteralHost address.toList host port
  /-- Every socket address passes the check, with its port. -/
  checked : ∀ socket, parse address = some socket →
    ∃ host port, HostPort.split address.toList = .ok ⟨host, port⟩ ∧
      Decimal.readSignedPort? port = some socket.port ∧
        ∀ field, addressFaults field address = []

/-- The check and the reading of socket addresses agree on literals. -/
theorem parse_agreesWithCheck (address : String) : AgreesWithCheck address := by
  constructor
  case literal =>
    intro unsigned number
    constructor
    · rintro ⟨socket, parsed, same⟩
      obtain ⟨host, port, literal, spells⟩ := read?_eq_some_iff.mp parsed
      refine ⟨host, port, HostPort.split_eq_ok_iff.mpr literal.written, ?_,
        (hasLiteralHost_iff number).mpr ⟨socket, literal, same⟩⟩
      rw [← same]
      exact spells.readSignedPort?
    · rintro ⟨host, port, -, read, literal⟩
      obtain ⟨socket, literal, rfl⟩ := (hasLiteralHost_iff number).mp literal
      rw [Decimal.readSignedPort?_of_unsigned (unsigned.of_written literal.written)] at read
      have spells := Decimal.readPort?_eq_some_iff.mp read
      exact ⟨socket, read?_eq_some_iff.mpr ⟨host, port, literal, spells⟩, rfl⟩
  case checked =>
    intro socket parsed
    obtain ⟨host, port, literal, spells⟩ := read?_eq_some_iff.mp parsed
    exact ⟨host, port, HostPort.split_eq_ok_iff.mpr literal.written, spells.readSignedPort?,
      addressFaults_of_written literal.written spells.readSignedPort?⟩

example : parse "127.0.0.1:+80" = none := by decide
example : addressFaults "host.bridge_address" "127.0.0.1:+80" = [] := by decide

end SocketAddress

end RpcTransport
