import RpcTransport.Proofs.Address.IpLiteral

/-! # Texts of socket addresses

A socket address stands in a text as `host:port` with an IPv4 literal, or as `[host]:port`
with an IPv6 literal and perhaps a scope. These are the forms that any address is split by,
so whatever reads as a socket address is split into the same port.
-/

namespace RpcTransport.SocketAddress

inductive ScopedLiteral : List Char → Ipv6 → UInt32 → Prop where
  | unscoped {text : List Char} {ip : Ipv6} (literal : Ipv6.Literal text ip) :
      ScopedLiteral text ip 0
  | withScope {text number : List Char} {ip : Ipv6} {scope : UInt32}
      (literal : Ipv6.Literal text ip) (spells : Decimal.Spells number scope.toNat) :
      ScopedLiteral (text ++ '%' :: number) ip scope

theorem readScope?_eq_some_iff {text : List Char} {scope : UInt32} :
    readScope? text = some scope ↔ Decimal.Spells text scope.toNat := by
  simp only [readScope?, Option.map_eq_some_iff, Decimal.readBelow?_eq_some_iff]
  constructor
  · rintro ⟨number, ⟨spells, small⟩, rfl⟩
    rwa [UInt32.toNat_ofNat_of_lt' small]
  · exact fun spells => ⟨scope.toNat, ⟨spells, scope.toNat_lt⟩, UInt32.ofNat_toNat⟩

theorem readScoped?_eq_some_iff {text : List Char} {ip : Ipv6} {scope : UInt32} :
    readScoped? text = some (ip, scope) ↔ ScopedLiteral text ip scope := by
  rw [readScoped?]
  constructor
  · intro read
    split at read
    · next literal number found =>
        obtain ⟨rfl, -⟩ := splitFirst?_eq_some_iff.mp found
        simp only [bind, pure, Option.bind_eq_some_iff, Option.some.injEq, Prod.mk.injEq] at read
        obtain ⟨_, ipRead, _, scopeRead, rfl, rfl⟩ := read
        exact .withScope (Ipv6.read?_eq_some_iff.mp ipRead) (readScope?_eq_some_iff.mp scopeRead)
    · simp only [bind, pure, Option.bind_eq_some_iff, Option.some.injEq, Prod.mk.injEq] at read
      obtain ⟨_, ipRead, rfl, rfl⟩ := read
      exact .unscoped (Ipv6.read?_eq_some_iff.mp ipRead)
  · intro literal
    cases literal with
    | unscoped literal =>
        have absent : '%' ∉ text := literal.not_mem rfl (by decide) (by decide) (by simp)
        simp only [splitFirst?_eq_none_iff.mpr absent, Ipv6.read?_eq_some_iff.mpr literal]
        rfl
    | @withScope host number _ _ literal spells =>
        have absent : '%' ∉ host := literal.not_mem rfl (by decide) (by decide) (by simp)
        simp only [splitFirst?_eq_some_iff.mpr ⟨rfl, absent⟩,
          Ipv6.read?_eq_some_iff.mpr literal, readScope?_eq_some_iff.mpr spells]
        rfl

def HostLiteral (text host port : List Char) : SocketAddress → Prop
  | v4 ip _ => HostPort.Plain text host port ∧ host = ip.text.toList
  | v6 ip scope _ => HostPort.Bracketed text host port ∧ ScopedLiteral host ip scope

theorem HostLiteral.written {text host port : List Char} {address : SocketAddress}
    (literal : HostLiteral text host port address) : HostPort.Written text ⟨host, port⟩ := by
  rw [HostPort.written_iff]
  cases address with
  | v4 ip number => exact .inr literal.1
  | v6 ip scope number => exact .inl literal.1

theorem HostLiteral.text_eq {text other host port : List Char} {address : SocketAddress}
    (first : HostLiteral text host port address) (second : HostLiteral other host port address) :
    text = other := by
  cases address with
  | v4 ip number => exact first.1.1.trans second.1.1.symm
  | v6 ip scope number => exact first.1.1.trans second.1.1.symm

/-- A socket address is read from the texts of its family, behind any spelling of the port. -/
theorem read?_eq_some_iff {text : List Char} {address : SocketAddress} :
    read? text = some address ↔
      ∃ host port, HostLiteral text host port address ∧
        Decimal.Spells port address.port.toNat := by
  constructor
  · intro read
    rw [read?.eq_def] at read
    split at read
    · next rest =>
        split at read
        · next host port found =>
            obtain ⟨rfl, closing⟩ := splitFirst?_eq_some_iff.mp found
            simp only [bind, pure, Option.bind_eq_some_iff, Option.some.injEq] at read
            obtain ⟨⟨ip, scope⟩, hostRead, number, portRead, rfl⟩ := read
            have spells := Decimal.readPort?_eq_some_iff.mp portRead
            exact ⟨host, port, ⟨⟨rfl, closing, spells.not_mem rfl⟩,
              readScoped?_eq_some_iff.mp hostRead⟩, spells⟩
        · cases read
    · next bare =>
        split at read
        · next host port found =>
            obtain ⟨rfl, colon⟩ := splitFirst?_eq_some_iff.mp found
            simp only [bind, pure, Option.bind_eq_some_iff, Option.some.injEq] at read
            obtain ⟨ip, hostRead, number, portRead, rfl⟩ := read
            have form := Ipv4.read?_eq_some_iff.mp hostRead
            have spells := Decimal.readPort?_eq_some_iff.mp portRead
            have opening : '[' ∉ host := form ▸ ip.not_mem_text (by decide) (by simp)
            have closing : ']' ∉ host := form ▸ ip.not_mem_text (by decide) (by simp)
            exact ⟨host, port, ⟨⟨rfl, colon, opening, closing, spells.not_mem rfl⟩, form⟩,
              spells⟩
        · cases read
  · rintro ⟨host, port, literal, spells⟩
    have portRead := Decimal.readPort?_eq_some_iff.mpr spells
    cases address with
    | v4 ip number =>
        obtain ⟨plain, form⟩ := literal
        have bare := plain.head?_ne
        obtain ⟨rfl, colon, -⟩ := plain
        rw [read?.eq_def]
        split
        · -- behind a bracket the text would have the other form
          next opening => exact absurd (congrArg List.head? opening) bare
        · simp only [splitFirst?_eq_some_iff.mpr ⟨rfl, colon⟩, Ipv4.read?_eq_some_iff.mpr form,
            portRead]
          rfl
    | v6 ip scope number =>
        obtain ⟨⟨rfl, closing, colon⟩, literal⟩ := literal
        simp only [read?, splitFirst?_eq_some_iff.mpr ⟨rfl, closing⟩,
          readScoped?_eq_some_iff.mpr literal, portRead]
        rfl

end RpcTransport.SocketAddress
