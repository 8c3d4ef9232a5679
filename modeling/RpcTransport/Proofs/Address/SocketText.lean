import RpcTransport.Address.Socket
import RpcTransport.Proofs.Address.HostPort

/-! # The port of a socket address in text

The canonical text of a socket address splits back into a host and the decimal form of its
port. An IPv4 address is written without colons and brackets, and what stands between the
brackets around an IPv6 address holds none.
-/

namespace RpcTransport

theorem not_mem_toDigits {base number : Nat} {separator : Char} (positional : 1 < base)
    (apart : ∀ digit, Nat.digitChar digit ≠ separator) :
    separator ∉ Nat.toDigits base number := by
  induction number using Nat.strongRecOn with
  | ind number ih =>
      intro member
      by_cases small : number < base
      · rw [Nat.toDigits_of_lt_base small] at member
        exact apart number (List.mem_singleton.mp member).symm
      · have large : base ≤ number := Nat.le_of_not_lt small
        rw [Nat.toDigits_of_base_le positional large] at member
        rcases List.mem_append.mp member with higher | last
        · exact ih (number / base) (Nat.div_lt_self (by omega) positional) higher
        · exact apart (number % base) (List.mem_singleton.mp last).symm

theorem not_mem_toString {number : Nat} {separator : Char}
    (apart : ∀ digit, Nat.digitChar digit ≠ separator) :
    separator ∉ (toString number).toList := by
  rw [Nat.toString_eq_repr, Nat.toList_repr]
  exact not_mem_toDigits (by omega) apart

theorem Ipv4.not_mem_text (ip : Ipv4) {separator : Char} (dot : separator ≠ '.')
    (apart : ∀ digit, Nat.digitChar digit ≠ separator) : separator ∉ ip.text.toList := by
  have octet : ∀ number, separator ∉ Nat.toDigits 10 number :=
    fun number => not_mem_toDigits (by omega) apart
  have dots : separator ∉ (toString ".").toList := by simpa [toString] using dot
  simp [Ipv4.text, octet, dots]

namespace Ipv6

theorem not_mem_groupsText (groups : List UInt16) {separator : Char} (colon : separator ≠ ':')
    (apart : ∀ digit, Nat.digitChar digit ≠ separator) :
    separator ∉ (groupsText groups).toList := by
  rw [groupsText]
  induction groups with
  | nil => simp
  | cons group rest ih =>
      have head : separator ∉ (Decimal.hexText group.toNat).toList := by
        rw [Decimal.hexText, String.toList_ofList]
        exact not_mem_toDigits (by omega) apart
      cases rest with
      | nil => simpa using head
      | cons next rest =>
          rw [List.map_cons] at ih
          rw [List.map_cons, List.map_cons, String.intercalate_cons_cons, String.toList_append,
            String.toList_append, List.mem_append, List.mem_append]
          rintro ((first | between) | later)
          · exact head first
          · exact colon (List.mem_singleton.mp between)
          · exact ih later

theorem not_mem_text (ip : Ipv6) {separator : Char} (colon : separator ≠ ':')
    (dot : separator ≠ '.') (apart : ∀ digit, Nat.digitChar digit ≠ separator) :
    separator ∉ ip.text.toList := by
  have groups := fun groups => not_mem_groupsText groups colon apart
  rw [text]
  cases mapped : ip.mapped? with
  | some v4 =>
      have inner := v4.not_mem_text dot apart
      have letter : separator ≠ 'f' := (apart 15).symm
      simp [inner, colon, letter]
  | none =>
      simp only
      split
      · simp [groups, colon]
      · exact groups ip.groups

end Ipv6

namespace SocketAddress

/-- The text splits into some host and the decimal form of the port. -/
theorem split_text (address : SocketAddress) :
    ∃ host, HostPort.split address.text.toList =
      .ok ⟨host, (toString address.port.toNat).toList⟩ := by
  have colon : ':' ∉ (toString address.port.toNat).toList :=
    not_mem_toString (fun digit => by simp)
  cases address with
  | v4 ip port =>
      have shape : (v4 ip port).text.toList =
          ip.text.toList ++ ':' :: (toString port.toNat).toList := by
        simp only [text, String.toList_append, List.append_assoc]
        rfl
      rw [shape]
      exact ⟨ip.text.toList, HostPort.split_plain
        (ip.not_mem_text (by decide) (by simp)) (ip.not_mem_text (by decide) (by simp))
        (ip.not_mem_text (by decide) (by simp)) colon⟩
  | v6 ip scope port =>
      have plain : ']' ∉ ip.text.toList := ip.not_mem_text (by decide) (by decide) (by simp)
      by_cases global : scope = 0
      · have shape : (v6 ip scope port).text.toList =
            '[' :: (ip.text.toList ++ ']' :: ':' :: (toString port.toNat).toList) := by
          simp only [text, if_pos global, String.toList_append, List.append_assoc]
          rfl
        rw [shape]
        exact ⟨ip.text.toList, HostPort.split_bracketed plain colon⟩
      · have shape : (v6 ip scope port).text.toList =
            '[' :: ((ip.text.toList ++ '%' :: (toString scope.toNat).toList) ++
              ']' :: ':' :: (toString port.toNat).toList) := by
          simp only [text, if_neg global, String.toList_append, List.append_assoc]
          rfl
        have number : ']' ∉ (toString scope.toNat).toList := not_mem_toString (by simp)
        have inner : ']' ∉ ip.text.toList ++ '%' :: (toString scope.toNat).toList := by
          rintro member
          rcases List.mem_append.mp member with before | behind
          · exact plain before
          · exact number (by simpa using behind)
        rw [shape]
        exact ⟨_, HostPort.split_bracketed inner colon⟩

end SocketAddress

end RpcTransport
