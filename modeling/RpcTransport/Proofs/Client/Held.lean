import RpcTransport.Proofs.Client.Generations
import RpcTransport.Proofs.Client.Turns

/-! # Handles that are held

Any number of handles may be held side by side. Each successful dial makes one, under the next
identity, and letting go of it is the end of its connection. So what has been reported of an
identity says what has become of its handle: nothing before it was drawn, that it was
established while the handle is held, and that it was closed ever after.
-/

namespace RpcTransport

def ConnectionEvent.id : ConnectionEvent → ConnectionId
  | established id => id
  | closed id => id

def ConnectionEvent.drawn? : ConnectionEvent → Option ConnectionId
  | established id => some id
  | closed _ => none

def eventsOf (id : ConnectionId) (notices : List Notice) : List ConnectionEvent :=
  (connectionEvents notices).filter fun event => event.id = id

def drawnIds (notices : List Notice) : List ConnectionId :=
  (connectionEvents notices).filterMap ConnectionEvent.drawn?

section Events

variable {id other : ConnectionId} (notices : List Notice) (address : String)

theorem eventsOf_concat {notice : Notice} {event : ConnectionEvent}
    (told : notice.connectionEvent? = some event) :
    eventsOf id (notices ++ [notice]) =
      eventsOf id notices ++ if event.id = id then [event] else [] := by
  have single : connectionEvents [notice] = [event] := by
    rw [connectionEvents, List.filterMap_cons_some told, List.filterMap_nil]
  rw [eventsOf, connectionEvents_append, List.filter_append, single]
  simp only [List.filter_cons, List.filter_nil, decide_eq_true_eq, eventsOf]

theorem eventsOf_concat_closed :
    eventsOf id (notices ++ [.connectionClosed other address]) =
      eventsOf id notices ++ if other = id then [.closed other] else [] := by
  have told : (Notice.connectionClosed other address).connectionEvent? = some (.closed other) := rfl
  exact eventsOf_concat notices told

theorem eventsOf_concat_established :
    eventsOf id (notices ++ [.connectionEstablished other address]) =
      eventsOf id notices ++ if other = id then [.established other] else [] := by
  have told : (Notice.connectionEstablished other address).connectionEvent? =
      some (.established other) := rfl
  exact eventsOf_concat notices told

theorem drawnIds_concat_closed :
    drawnIds (notices ++ [.connectionClosed other address]) = drawnIds notices := by
  rw [drawnIds, connectionEvents_append, List.filterMap_append]
  exact List.append_nil _

theorem drawnIds_concat_established :
    drawnIds (notices ++ [.connectionEstablished other address]) =
      drawnIds notices ++ [other] := by
  rw [drawnIds, connectionEvents_append, List.filterMap_append]
  rfl

end Events

namespace Transport

def Drawn (base transport : Transport) (id : ConnectionId) : Prop :=
  base.identities < id.number ∧ id.number ≤ transport.identities

theorem Drawn.ne_next {base transport : Transport} {id : ConnectionId}
    (drawn : base.Drawn transport id) : ⟨transport.identities + 1⟩ ≠ id := by
  rintro rfl
  exact Nat.not_succ_le_self _ drawn.2

theorem drawn_established_iff {base transport : Transport} {id : ConnectionId}
    (older : base.identities ≤ transport.identities) (target : DialTarget) :
    base.Drawn (transport.established target) id ↔
      ⟨transport.identities + 1⟩ = id ∨ base.Drawn transport id := by
  obtain ⟨number⟩ := id
  change base.identities < number ∧ number ≤ transport.identities + 1 ↔
    _ ∨ (base.identities < number ∧ number ≤ transport.identities)
  rw [ConnectionId.mk.injEq]
  omega

/-- Since `base`, which nobody had dialed on, handles have been made and let go of, and just
    some are still held. `told` is what was reported in the meantime. -/
structure Holds (base transport : Transport) (held : List Handle) (told : List Notice) :
    Prop where
  notices : transport.journal.notices = base.journal.notices ++ told
  references : transport.references.Perm (held.map (·.connection))
  generation : transport.generation = successes transport.dials
  identities : transport.identities = base.identities + successes transport.dials
  /-- Identities and connections are numbered alike. -/
  numbered : ∀ handle ∈ held, handle.id.number = base.identities + handle.connection
  drawn : ∀ handle ∈ held, base.Drawn transport handle.id
  distinct : (held.map (·.id)).Nodup
  ids : drawnIds told = (List.range (successes transport.dials)).map fun n =>
    ⟨base.identities + n + 1⟩
  current : ∀ handle ∈ held, eventsOf handle.id told = [.established handle.id]
  ended : ∀ id, base.Drawn transport id → id ∉ held.map (·.id) →
    eventsOf id told = [.established id, .closed id]
  undrawn : ∀ id, ¬ base.Drawn transport id → eventsOf id told = []

namespace Holds

variable {base transport : Transport} {handle : Handle} {held : List Handle}
  {told : List Notice}

theorem mem_live_iff (holds : base.Holds transport held told) {connection : Nat} :
    connection ∈ transport.live ↔ ∃ handle ∈ held, handle.connection = connection := by
  rw [live, List.mem_eraseDups, holds.references.mem_iff, List.mem_map]

theorem perm (holds : base.Holds transport held told) {others : List Handle}
    (same : held.Perm others) : base.Holds transport others told where
  notices := holds.notices
  references := holds.references.trans (same.map _)
  generation := holds.generation
  identities := holds.identities
  numbered handle member := holds.numbered handle (same.mem_iff.mpr member)
  drawn handle member := holds.drawn handle (same.mem_iff.mpr member)
  distinct := (same.map _).nodup_iff.mp holds.distinct
  ids := holds.ids
  current handle member := holds.current handle (same.mem_iff.mpr member)
  ended id drawn absent := holds.ended id drawn fun member =>
    absent ((same.map _).mem_iff.mp member)
  undrawn := holds.undrawn

theorem unused (script : List (Option String)) (fallback : Option String) (identities : Nat)
    (journal : Journal) :
    (Transport.unused script fallback identities journal).Holds
      (Transport.unused script fallback identities journal) [] [] where
  notices := (List.append_nil _).symm
  references := .refl []
  generation := rfl
  identities := rfl
  numbered _ absent := nomatch absent
  drawn _ absent := nomatch absent
  distinct := .nil
  ids := rfl
  current _ absent := nomatch absent
  ended id drawn := by
    obtain ⟨above, below⟩ := drawn
    exact absurd (Nat.lt_of_lt_of_le above below) (Nat.lt_irrefl _)
  undrawn _ _ := rfl

theorem connection_ne (holds : base.Holds transport (handle :: held) told) {other : Handle}
    (member : other ∈ held) : other.connection ≠ handle.connection := by
  intro same
  obtain ⟨fresh, -⟩ := List.nodup_cons.mp holds.distinct
  apply fresh
  have number := holds.numbered handle List.mem_cons_self
  have otherNumber := holds.numbered other (List.mem_cons_of_mem _ member)
  refine List.mem_map.mpr ⟨other, member, ?_⟩
  rw [ConnectionId.mk.injEq, number, otherNumber, same]

theorem close (holds : base.Holds transport (handle :: held) told) :
    base.Holds (handle.close transport) held
      (told ++ [.connectionClosed handle.id handle.target.address]) := by
  obtain ⟨fresh, distinct⟩ := List.nodup_cons.mp holds.distinct
  have own := holds.drawn handle List.mem_cons_self
  constructor
  case notices =>
    rw [← List.append_assoc, ← holds.notices]
    rfl
  case references =>
    have erased := holds.references.erase handle.connection
    rwa [List.map_cons, List.erase_cons_head] at erased
  case generation => exact holds.generation
  case identities => exact holds.identities
  case numbered =>
    intro other member
    exact holds.numbered other (List.mem_cons_of_mem _ member)
  case drawn =>
    intro other member
    exact holds.drawn other (List.mem_cons_of_mem _ member)
  case distinct => exact distinct
  case ids =>
    rw [drawnIds_concat_closed]
    exact holds.ids
  case current =>
    intro other member
    have apart : handle.id ≠ other.id := fun same =>
      fresh (List.mem_map.mpr ⟨other, member, same.symm⟩)
    rw [eventsOf_concat_closed, if_neg apart, List.append_nil]
    exact holds.current other (List.mem_cons_of_mem _ member)
  case ended =>
    intro id drawn absent
    rw [eventsOf_concat_closed]
    -- the identity ends with this handle, or it had ended before
    by_cases same : handle.id = id
    · rw [if_pos same, ← same, holds.current handle List.mem_cons_self]
      rfl
    · rw [if_neg same, List.append_nil]
      apply holds.ended id drawn
      rw [List.map_cons, List.mem_cons]
      rintro (rfl | later)
      · exact same rfl
      · exact absent later
  case undrawn =>
    intro id undrawn
    have apart : handle.id ≠ id := fun same => undrawn (same ▸ own)
    rw [eventsOf_concat_closed, if_neg apart, List.append_nil]
    exact holds.undrawn id undrawn

theorem refused (holds : base.Holds transport held told) {failure : String}
    (refused : transport.nextOutcome = some failure) (target : DialTarget) :
    base.Holds (transport.recordDial target) held told := by
  have same : successes (transport.recordDial target).dials = successes transport.dials := by
    rw [recordDial, successes_append, successes_of_refused refused, Nat.add_zero]
  exact { holds with
    generation := by rw [same]; exact holds.generation
    identities := by rw [same]; exact holds.identities
    ids := by rw [same]; exact holds.ids }

theorem established (holds : base.Holds transport held told)
    (accepted : transport.nextOutcome = none) (target : DialTarget) :
    base.Holds (transport.established target) (.next target transport :: held)
      (told ++ [.connectionEstablished ⟨transport.identities + 1⟩ target.address]) := by
  have more : successes (transport.established target).dials =
      successes transport.dials + 1 := by
    change successes (transport.dials ++ [_]) = _
    rw [successes_append, successes_of_succeeded (DialRecord.succeeded_of_accepted accepted)]
  have identities := holds.identities
  have drawnNow : ∀ {id}, base.Drawn (transport.established target) id ↔
      ⟨transport.identities + 1⟩ = id ∨ base.Drawn transport id :=
    drawn_established_iff (by omega) target
  constructor
  case notices =>
    rw [← List.append_assoc, ← holds.notices]
    rfl
  case references => exact holds.references.cons _
  case generation =>
    rw [more, ← holds.generation]
    rfl
  case identities =>
    change transport.identities + 1 = _
    rw [more, identities]
    rfl
  case numbered =>
    intro handle member
    rcases List.mem_cons.mp member with rfl | member
    · change transport.identities + 1 = base.identities + (transport.generation + 1)
      rw [holds.generation, identities]
      rfl
    · exact holds.numbered handle member
  case drawn =>
    intro handle member
    rcases List.mem_cons.mp member with rfl | member
    · exact drawnNow.mpr (.inl rfl)
    · exact drawnNow.mpr (.inr (holds.drawn handle member))
  case distinct =>
    rw [List.map_cons, List.nodup_cons]
    refine ⟨?_, holds.distinct⟩
    intro member
    obtain ⟨handle, member, same⟩ := List.mem_map.mp member
    exact (holds.drawn handle member).ne_next same.symm
  case ids =>
    rw [drawnIds_concat_established, holds.ids, more, List.range_succ, List.map_append,
      List.map_singleton, identities]
  case current =>
    intro handle member
    rw [eventsOf_concat_established]
    rcases List.mem_cons.mp member with rfl | member
    · -- nothing was reported of the identity before
      have fresh : ¬ base.Drawn transport ⟨transport.identities + 1⟩ := fun drawn =>
        drawn.ne_next rfl
      change eventsOf ⟨transport.identities + 1⟩ told ++ _ = _
      rw [holds.undrawn _ fresh]
      exact if_pos rfl
    · rw [if_neg (holds.drawn handle member).ne_next, List.append_nil]
      exact holds.current handle member
  case ended =>
    intro id drawn absent
    rw [List.map_cons, List.mem_cons, not_or] at absent
    obtain ⟨other, absent⟩ := absent
    have before : base.Drawn transport id :=
      (drawnNow.mp drawn).resolve_left (Ne.symm other)
    rw [eventsOf_concat_established, if_neg before.ne_next, List.append_nil]
    exact holds.ended id before absent
  case undrawn =>
    intro id undrawn
    rw [drawnNow, not_or] at undrawn
    rw [eventsOf_concat_established, if_neg undrawn.1, List.append_nil]
    exact holds.undrawn id undrawn.2

end Holds

end Transport

end RpcTransport
