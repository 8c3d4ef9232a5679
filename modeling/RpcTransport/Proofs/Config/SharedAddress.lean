import RpcTransport.Proofs.Config.Rules

/-! # Listeners with one address

The check tells the two addresses of a host apart by their texts. A socket address has more
texts than one: the digits of its port may stand behind zeros, and what is between the brackets
of an IPv6 address may be written in other ways. These are what the check overlooks, and it
overlooks nothing else.
-/

namespace RpcTransport

open SocketAddress (HostLiteral)

/-- The primary listener and the bridge of a configuration that is accepted do not have one
    socket address, unless the port is left open. -/
def Config.KeepsApart (config : Config) : Prop :=
  config.check = .ok () → config.host.bridgeEnabled = true →
    ∀ primary bridge, SocketAddress.parse config.host.primaryAddress = some primary →
      SocketAddress.parse config.host.bridgeAddress = some bridge →
        primary.port ≠ 0 → bridge.port ≠ 0 → primary ≠ bridge

/-- Two texts of one socket address, and what they differ in. -/
inductive SpeltTwice (text other : List Char) : SocketAddress → Prop where
  /-- The port stands behind more zeros in one of them. -/
  | port {socket : SocketAddress} {host last port digits : List Char}
      (first : HostLiteral text host port socket) (second : HostLiteral other last digits socket)
      (spells : Decimal.Spells port socket.port.toNat)
      (others : Decimal.Spells digits socket.port.toNat) (padded : port.length ≠ digits.length) :
      SpeltTwice text other socket
  /-- The IPv6 address or its scope is written in another way. -/
  | host {ip : Ipv6} {scope : UInt32} {number : UInt16} {host last port digits : List Char}
      (first : HostLiteral text host port (.v6 ip scope number))
      (second : HostLiteral other last digits (.v6 ip scope number))
      (spells : Decimal.Spells port number.toNat) (others : Decimal.Spells digits number.toNat)
      (forms : host ≠ last) : SpeltTwice text other (.v6 ip scope number)

section Spellings

variable {text other : List Char} {socket : SocketAddress}

theorem SpeltTwice.of_read? (differ : text ≠ other)
    (first : SocketAddress.read? text = some socket)
    (second : SocketAddress.read? other = some socket) : SpeltTwice text other socket := by
  obtain ⟨host, port, literal, spells⟩ := SocketAddress.read?_eq_some_iff.mp first
  obtain ⟨last, digits, otherLiteral, others⟩ := SocketAddress.read?_eq_some_iff.mp second
  by_cases length : port.length = digits.length
  · cases spells.eq_of_length others length
    have forms : host ≠ last := by
      rintro rfl
      exact differ (literal.text_eq otherLiteral)
    cases socket with
    | v4 ip number => exact absurd (literal.2.trans otherLiteral.2.symm) forms
    | v6 ip scope number => exact .host literal otherLiteral spells others forms
  · exact .port literal otherLiteral spells others length

theorem SpeltTwice.read? (spelt : SpeltTwice text other socket) :
    SocketAddress.read? text = some socket ∧ SocketAddress.read? other = some socket := by
  cases spelt with
  | port first second spells others _ | host first second spells others _ =>
      exact ⟨SocketAddress.read?_eq_some_iff.mpr ⟨_, _, first, spells⟩,
        SocketAddress.read?_eq_some_iff.mpr ⟨_, _, second, others⟩⟩

theorem SpeltTwice.ne (spelt : SpeltTwice text other socket) : text ≠ other := by
  rintro rfl
  cases spelt with
  | port first second _ _ padded =>
      cases first.written.unique second.written
      exact padded rfl
  | host first second _ _ forms =>
      cases first.written.unique second.written
      exact forms rfl

end Spellings

variable {config : Config} {address : String} {socket : SocketAddress}

theorem isListenerAddress_of_read? (read : SocketAddress.read? address.toList = some socket) :
    IsListenerAddress address := by
  obtain ⟨host, port, literal, spells⟩ := SocketAddress.read?_eq_some_iff.mp read
  exact ⟨host, port, socket.port, literal.written, .inl spells⟩

/-- Listeners are kept apart just if their addresses are not two texts of one socket address. -/
theorem Config.keepsApart_iff (config : Config) : config.KeepsApart ↔
    ¬ (ConfigRule.serviceName.KeptBy config ∧ ConfigRule.metricsAddress.KeptBy config ∧
      config.host.bridgeEnabled = true ∧ ∃ socket, socket.port ≠ 0 ∧
        SpeltTwice config.host.primaryAddress.toList config.host.bridgeAddress.toList socket) := by
  constructor
  · rintro apart ⟨named, measured, enabled, socket, fixed, spelt⟩
    obtain ⟨primary, bridge⟩ := spelt.read?
    refine apart (check_eq_ok_iff_keptBy.mpr fun rule => ?_) enabled socket socket primary bridge
      fixed fixed rfl
    cases rule with
    | serviceName => exact named
    | primaryAddress => exact isListenerAddress_of_read? primary
    | bridgeAddress => exact fun _ => isListenerAddress_of_read? bridge
    | bridgeApart => exact fun _ same => spelt.ne (congrArg String.toList same.symm)
    | metricsAddress => exact measured
  · rintro otherwise accepted enabled primary bridge readPrimary readBridge fixed - rfl
    have kept := check_eq_ok_iff_keptBy.mp accepted
    have differ : config.host.primaryAddress.toList ≠ config.host.bridgeAddress.toList :=
      fun same => kept .bridgeApart enabled (String.toList_inj.mp same.symm)
    exact otherwise ⟨kept .serviceName, kept .metricsAddress, enabled, primary, fixed,
      .of_read? differ readPrimary readBridge⟩

def Config.withListeners (primary bridge : String) : Config :=
  { host := { primaryAddress := primary, bridgeEnabled := true, bridgeAddress := bridge } }

/-- A zero in front of a port is enough, and so is one in front of an IPv6 address. -/
theorem not_keepsApart : ¬ (Config.withListeners "0.0.0.0:9091" "0.0.0.0:09091").KeepsApart ∧
    ¬ (Config.withListeners "[::1]:9091" "[0::1]:9091").KeepsApart := by
  constructor
  · intro apart
    have primary : SocketAddress.parse "0.0.0.0:9091" = some (.v4 ⟨0, 0, 0, 0⟩ 9091) := by decide
    have bridge : SocketAddress.parse "0.0.0.0:09091" = some (.v4 ⟨0, 0, 0, 0⟩ 9091) := by decide
    exact apart rfl rfl _ _ primary bridge (by decide) (by decide) rfl
  · intro apart
    have primary : SocketAddress.parse "[::1]:9091" =
        some (.v6 ⟨[0, 0, 0, 0, 0, 0, 0, 1], rfl⟩ 0 9091) := by decide
    have bridge : SocketAddress.parse "[0::1]:9091" =
        some (.v6 ⟨[0, 0, 0, 0, 0, 0, 0, 1], rfl⟩ 0 9091) := by decide
    exact apart rfl rfl _ _ primary bridge (by decide) (by decide) rfl

end RpcTransport
