import RpcTransport.Proofs.Address.SocketLiteral
import RpcTransport.Proofs.Listener.FirstAccepted
import RpcTransport.Proofs.Listener.GuardedBind

/-! # Bind targets are judged by their port

What a guarded bind hands to the guard is the canonical text of a socket address, which is
always well-formed and on a stream network. So the port is all that the guard can refuse,
and it sees the port in decimal form, however the bind address spells it.
-/

namespace RpcTransport

/-- Between two journals one port may have been refused, and nothing else was. -/
structure RefusesPort (port : String) (before after : Journal) : Prop where
  counts : ∃ refused, after.counts = before.counts ++ List.replicate refused (.rejection "port")
  notices : ∃ notices, after.notices = before.notices ++ notices ∧
    ∀ network address message, .bindRejected network address message ∈ notices →
      message = (GuardError.unsafePort port).message

namespace RefusesPort

variable {port : String} {before between after : Journal}

theorem refl (port : String) (journal : Journal) : RefusesPort port journal journal :=
  ⟨⟨0, (List.append_nil _).symm⟩, [], (List.append_nil _).symm, by simp⟩

theorem trans (first : RefusesPort port before between)
    (second : RefusesPort port between after) : RefusesPort port before after := by
  obtain ⟨⟨earlier, firstCounts⟩, notices, firstNotices, refusals⟩ := first
  obtain ⟨⟨later, secondCounts⟩, others, secondNotices, otherRefusals⟩ := second
  refine ⟨⟨earlier + later, ?_⟩, notices ++ others, ?_, ?_⟩
  · rw [secondCounts, firstCounts, List.append_assoc, List.replicate_append_replicate]
  · rw [secondNotices, firstNotices, List.append_assoc]
  · intro network address message member
    rcases List.mem_append.mp member with first | second
    · exact refusals network address message first
    · exact otherRefusals network address message second

theorem refused (port : String) (journal : Journal) (network address : String) :
    RefusesPort port journal
      ((journal.note (.bindRejected network address (GuardError.unsafePort port).message)).count
        (.rejection "port")) :=
  ⟨⟨1, rfl⟩, [_], rfl, by simp⟩

theorem bound (port : String) (journal : Journal) (network address : String) :
    RefusesPort port journal (journal.note (.guardedBound network address)) :=
  ⟨⟨0, (List.append_nil _).symm⟩, [_], rfl, by simp⟩

end RefusesPort

/-- The guard refuses a socket address for its port, or not at all. -/
theorem Guard.refusal?_eq (guard : Guard) (candidate : SocketAddress) :
    guard.refusal? candidate =
      if guard.Permits candidate.port then none
      else some (.unsafePort (toString candidate.port.toNat)) := by
  by_cases permitted : guard.Permits candidate.port
  · rw [refusal?, (guard.validate_text_iff candidate).mpr permitted, if_pos permitted]
  · rw [refusal?, validate_text_of_not_permits permitted, if_neg permitted]

namespace Sockets

section Candidates

variable {network : Network} {guard : Guard} {port : UInt16}

end Candidates

end Sockets

end RpcTransport
