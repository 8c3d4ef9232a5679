import Mathlib.Data.List.Nodup
import RpcTransport.Proofs.Client.Held
import RpcTransport.Proofs.Client.PoolSteps

/-! # Runs of a pool

The handles in the slots of a pool are just those that are held, and whatever is done with the
slots leaves it at that. So what has been reported of an identity tells whether its handle is in
a slot, and no identity ever stands for two handles.
-/

namespace RpcTransport

namespace Pool

variable {pool : Pool} {slot : String} {old : Handle}

/-- The handles in the slots of a pool, each slot with a name of its own, are just those that are
    held since `base`. -/
structure Sound (pool : Pool) (base : Transport) (told : List Notice) : Prop where
  names : (pool.slots.map (·.1)).Nodup
  holds : base.Holds pool.transport (pool.slots.map (·.2)) told

namespace Sound

variable {base : Transport} {told : List Notice}

theorem perm_without (sound : pool.Sound base told) (occupied : pool.get? slot = some old) :
    (pool.slots.map (·.2)).Perm (old :: (pool.without slot).map (·.2)) := by
  obtain ⟨before, behind, same, others⟩ := exists_filter_of_lookup sound.names occupied
  have left : pool.without slot = before ++ behind := others
  rw [left, same, List.map_append, List.map_append]
  exact List.perm_middle

theorem names_without (sound : pool.Sound base told) (slot : String) :
    ((pool.without slot).map (·.1)).Nodup :=
  (List.filter_sublist.map _).nodup sound.names

theorem names_fill (sound : pool.Sound base told) (slot : String) (handle : Handle) :
    ((fill pool.slots slot handle).map (·.1)).Nodup := by
  change ((pool.without slot ++ [(slot, handle)]).map (·.1)).Nodup
  rw [List.map_append, List.map_singleton, List.nodup_append]
  refine ⟨sound.names_without slot, List.pairwise_singleton _ _, ?_⟩
  intro name member other single
  obtain ⟨entry, kept, rfl⟩ := List.mem_map.mp member
  rw [List.mem_singleton.mp single]
  have apart := (List.mem_filter.mp kept).2
  exact of_decide_eq_true apart

theorem closed (sound : pool.Sound base told) (occupied : pool.get? slot = some old) :
    (pool.vacated slot old).Sound base
      (told ++ [.connectionClosed old.id old.target.address]) :=
  ⟨sound.names_without slot, (sound.holds.perm (sound.perm_without occupied)).close⟩

theorem close (sound : pool.Sound base told) (slot : String) :
    ∃ told, (pool.act (.close slot)).2.Sound base told := by
  cases occupied : pool.get? slot with
  | none =>
      rw [act_close_of_vacant occupied]
      exact ⟨told, sound⟩
  | some old =>
      rw [act_close_of_occupied occupied]
      exact ⟨_, sound.closed occupied⟩

theorem establish (sound : pool.Sound base told) (slot : String) (target : DialTarget) :
    ∃ told, (pool.act (.establish slot target)).2.Sound base told := by
  cases outcome : pool.transport.nextOutcome with
  | some failure =>
      rw [act_establish_of_refused outcome]
      exact ⟨told, sound.names, sound.holds.refused outcome target⟩
  | none =>
      have names := sound.names_fill slot (.next target pool.transport)
      have last : (Handle.next target pool.transport :: (pool.without slot).map (·.2)).Perm
          ((fill pool.slots slot (.next target pool.transport)).map (·.2)) := by
        rw [handles_fill]
        exact (List.perm_append_singleton _ _).symm
      cases occupied : pool.get? slot with
      | none =>
          rw [act_establish_of_vacant outcome occupied]
          have same : pool.without slot = pool.slots := filter_of_lookup_eq_none occupied
          have holds := sound.holds.established outcome target
          rw [← same] at holds
          exact ⟨_, names, holds.perm last⟩
      | some old =>
          -- the old handle is let go of behind the dial
          rw [act_establish_of_occupied outcome occupied]
          have holds := (sound.holds.perm (sound.perm_without occupied)).established outcome target
          have closed := (holds.perm (.swap _ _ _)).close
          exact ⟨_, names, closed.perm last⟩

theorem act (sound : pool.Sound base told) (action : PoolAction) :
    ∃ told, (pool.act action).2.Sound base told := by
  cases action with
  | establish slot target => exact sound.establish slot target
  | close slot => exact sound.close slot
  | redial slot =>
      cases occupied : pool.get? slot with
      | none =>
          rw [act_redial_of_vacant occupied]
          exact ⟨told, sound⟩
      | some old =>
          rw [act_redial_of_occupied occupied]
          obtain ⟨_, closed⟩ := sound.close slot
          exact closed.establish slot old.target

theorem run (sound : pool.Sound base told) (actions : List PoolAction) :
    ∃ told, (pool.run actions).Sound base told := by
  induction actions generalizing pool told with
  | nil => exact ⟨told, sound⟩
  | cons action rest ih =>
      obtain ⟨_, next⟩ := sound.act action
      exact ih next

theorem get?_eq_some_iff (sound : pool.Sound base told) {handle : Handle} :
    pool.get? slot = some handle ↔ (slot, handle) ∈ pool.slots :=
  lookup_eq_some_iff_mem_of_nodup sound.names

theorem mem_held_iff (sound : pool.Sound base told) {handle : Handle} :
    handle ∈ pool.slots.map (·.2) ↔ ∃ slot, pool.get? slot = some handle := by
  rw [List.mem_map]
  constructor
  · rintro ⟨entry, entered, rfl⟩
    exact ⟨entry.1, sound.get?_eq_some_iff.mpr entered⟩
  · rintro ⟨slot, occupied⟩
    exact ⟨(slot, handle), sound.get?_eq_some_iff.mp occupied, rfl⟩

theorem mem_live_iff (sound : pool.Sound base told) {connection : Nat} :
    connection ∈ pool.transport.live ↔
      ∃ slot handle, pool.get? slot = some handle ∧ handle.connection = connection := by
  rw [sound.holds.mem_live_iff, exists_comm]
  simp only [sound.mem_held_iff, exists_and_right]

end Sound

/-- A later pool has drawn no fewer identities, and whatever new handle is in it has one of
    those drawn in the meantime. -/
structure Follows (pool after : Pool) : Prop where
  identities : pool.transport.identities ≤ after.transport.identities
  handles : ∀ slot handle, after.get? slot = some handle →
    pool.get? slot = some handle ∨ pool.transport.identities < handle.id.number

namespace Follows

variable {first second third : Pool}

theorem refl (pool : Pool) : pool.Follows pool :=
  ⟨Nat.le_refl _, fun _ _ occupied => .inl occupied⟩

theorem trans (sooner : first.Follows second) (later : second.Follows third) :
    first.Follows third := by
  refine ⟨Nat.le_trans sooner.identities later.identities, ?_⟩
  intro slot handle occupied
  rcases later.handles slot handle occupied with before | new
  · exact sooner.handles slot handle before
  · exact .inr (Nat.lt_of_le_of_lt sooner.identities new)

end Follows

theorem follows_close (pool : Pool) (slot : String) :
    pool.Follows (pool.act (.close slot)).2 := by
  have closes := pool.closes slot
  refine ⟨Nat.le_of_eq closes.identities.symm, fun other handle found => .inl ?_⟩
  by_cases same : other = slot
  · rw [same, closes.own] at found
    cases found
  · rwa [closes.others other same] at found

theorem follows_establish (pool : Pool) (slot : String) (target : DialTarget) :
    pool.Follows (pool.act (.establish slot target)).2 := by
  have opens := pool.opens slot target
  refine ⟨opens.identities ▸ Nat.le_add_right _ _, fun other handle found => ?_⟩
  by_cases same : other = slot
  · rw [same, opens.own] at found
    split at found
    · cases found
      exact .inr (Nat.lt_succ_self _)
    · exact .inl (same ▸ found)
  · rw [opens.others other same] at found
    exact .inl found

theorem follows_act (pool : Pool) (action : PoolAction) :
    pool.Follows (pool.act action).2 := by
  cases action with
  | establish slot target => exact pool.follows_establish slot target
  | close slot => exact pool.follows_close slot
  | redial slot =>
      cases occupied : pool.get? slot with
      | none =>
          rw [act_redial_of_vacant occupied]
          exact .refl pool
      | some old =>
          rw [act_redial_of_occupied occupied]
          exact (pool.follows_close slot).trans (follows_establish _ slot old.target)

theorem follows_run (pool : Pool) (actions : List PoolAction) :
    pool.Follows (pool.run actions) := by
  induction actions generalizing pool with
  | nil => exact .refl pool
  | cons action rest ih => exact (pool.follows_act action).trans (ih _)

/-- A redial of the handle in a slot: the old one is let go of, with a notice of its end, before
    its target is dialed again. The other slots are as they were. -/
structure Redials (pool : Pool) (slot : String) (old : Handle) (record : DialRecord)
    (answer : Option String × Pool) : Prop where
  dials : answer.2.transport.dials = pool.transport.dials ++ [record]
  dialed : record.target = old.target
  outcome : record.failure = pool.transport.nextOutcome
  failure : answer.1 = record.failure
  /-- The end of the old connection is reported before the dial, and nothing else is. -/
  reported : record.reported = pool.transport.journal.notices.length + 1
  notices : answer.2.transport.journal.notices =
    pool.transport.journal.notices ++ old.closure ::
      if record.failure = none then
        [.connectionEstablished ⟨pool.transport.identities + 1⟩ old.target.address]
      else []
  released : old.connection ∉ record.live
  own : answer.2.get? slot =
    if record.failure = none then some (.next old.target pool.transport) else none
  others : ∀ other, other ≠ slot → answer.2.get? other = pool.get? other
  live : ∀ other handle, other ≠ slot → pool.get? other = some handle →
    handle.connection ∈ record.live

theorem Sound.redials {base : Transport} {told : List Notice} (sound : pool.Sound base told)
    (occupied : pool.get? slot = some old) :
    ∃ record, pool.Redials slot old record (pool.act (.redial slot)) := by
  have closed := sound.closed occupied
  have others : ∀ other, other ≠ slot → (pool.vacated slot old).get? other = pool.get? other := by
    intro other apart
    rw [get?_vacated, if_neg apart]
  have vacant : (pool.vacated slot old).get? slot = none := by
    rw [get?_vacated, if_pos rfl]
  have opens := (pool.vacated slot old).opens slot old.target
  rw [act_redial_of_occupied occupied, act_close_of_occupied occupied]
  refine ⟨(pool.vacated slot old).transport.nextDial old.target, ?_⟩
  constructor
  case dials => exact opens.dials
  case dialed => rfl
  case outcome => rfl
  case failure => exact opens.failure
  case reported => exact List.length_append
  case notices =>
    rw [opens.notices, vacant]
    exact List.append_assoc _ [_] _
  case released =>
    intro still
    obtain ⟨handle, member, same⟩ := closed.holds.mem_live_iff.mp still
    -- as long as the old handle was held, none of the others shared its connection
    have before := sound.holds.perm (sound.perm_without occupied)
    exact before.connection_ne member same
  case own =>
    rw [opens.own, vacant]
    rfl
  case others =>
    intro other apart
    rw [opens.others other apart, others other apart]
  case live =>
    intro other handle apart found
    exact closed.mem_live_iff.mpr ⟨other, handle, (others other apart).trans found, rfl⟩

structure KeepsTrack (base : Transport) (pool : Pool) (told : List Notice) : Prop where
  notices : pool.transport.journal.notices = base.journal.notices ++ told
  /-- Just the dials that succeed draw identities, and each is reported when it is drawn. -/
  identities : pool.transport.identities = base.identities + successes pool.transport.dials
  ids : drawnIds told = (List.range (successes pool.transport.dials)).map fun n =>
    ⟨base.identities + n + 1⟩
  /-- Connections are numbered as identities are, and those of the slots are live. -/
  numbered : ∀ slot handle, pool.get? slot = some handle →
    handle.id.number = base.identities + handle.connection
  live : ∀ connection, connection ∈ pool.transport.live ↔
    ∃ slot handle, pool.get? slot = some handle ∧ handle.connection = connection
  /-- While its handle is in a slot, a connection was established and not closed. Once the handle
      is gone, it was also closed, and never again. -/
  held : ∀ slot handle, pool.get? slot = some handle →
    base.Drawn pool.transport handle.id ∧
      eventsOf handle.id told = [.established handle.id]
  ended : ∀ id, base.Drawn pool.transport id →
    (∀ slot handle, pool.get? slot = some handle → handle.id ≠ id) →
      eventsOf id told = [.established id, .closed id]
  undrawn : ∀ id, ¬ base.Drawn pool.transport id → eventsOf id told = []
  /-- Whatever is done next, an identity never stands for another handle. -/
  unique : ∀ more slot other handle another, pool.get? slot = some handle →
    (pool.run more).get? other = some another → handle.id = another.id →
      slot = other ∧ handle = another
  later : ∀ more slot handle, (pool.run more).get? slot = some handle →
    pool.get? slot = some handle ∨ pool.transport.identities < handle.id.number
  opens : ∀ slot target,
    ∃ record, pool.Opens slot target record (pool.act (.establish slot target))
  closes : ∀ slot, pool.Closes slot (pool.act (.close slot))
  redials : ∀ slot old, pool.get? slot = some old →
    ∃ record, pool.Redials slot old record (pool.act (.redial slot))
  /-- Others may act between the two halves of a redial. -/
  halves : ∀ slot old, pool.get? slot = some old →
    pool.act (.redial slot) = (pool.act (.close slot)).2.act (.establish slot old.target)
  closeAll : pool.closeAll = pool.run (pool.slots.map fun entry => .close entry.1)

namespace Sound

variable {base : Transport} {told : List Notice}

theorem slot_eq (sound : pool.Sound base told) {other : String} {handle another : Handle}
    (found : pool.get? slot = some handle) (occupied : pool.get? other = some another)
    (same : handle.id = another.id) : slot = other ∧ handle = another := by
  have distinct := sound.holds.distinct
  rw [List.map_map] at distinct
  have equal := List.inj_on_of_nodup_map distinct (sound.get?_eq_some_iff.mp found)
    (sound.get?_eq_some_iff.mp occupied) same
  exact Prod.mk.inj equal

theorem keepsTrack (sound : pool.Sound base told) : KeepsTrack base pool told := by
  have member : ∀ slot handle, pool.get? slot = some handle →
      handle ∈ pool.slots.map (·.2) := fun slot handle occupied =>
    sound.mem_held_iff.mpr ⟨slot, occupied⟩
  constructor
  case notices => exact sound.holds.notices
  case identities => exact sound.holds.identities
  case ids => exact sound.holds.ids
  case numbered =>
    intro slot handle occupied
    exact sound.holds.numbered handle (member slot handle occupied)
  case live => exact fun connection => sound.mem_live_iff
  case held =>
    intro slot handle occupied
    have entered := member slot handle occupied
    exact ⟨sound.holds.drawn handle entered, sound.holds.current handle entered⟩
  case ended =>
    intro id drawn gone
    apply sound.holds.ended id drawn
    intro identified
    obtain ⟨handle, entered, same⟩ := List.mem_map.mp identified
    obtain ⟨slot, occupied⟩ := sound.mem_held_iff.mp entered
    exact gone slot handle occupied same
  case undrawn => exact sound.holds.undrawn
  case unique =>
    intro more slot other handle another found occupied same
    rcases (pool.follows_run more).handles other another occupied with before | new
    · exact sound.slot_eq found before same
    · -- a new handle has an identity beyond those drawn so far
      have below := (sound.holds.drawn handle (member slot handle found)).2
      rw [same] at below
      exact absurd new (Nat.not_lt.mpr below)
  case later => exact fun more => (pool.follows_run more).handles
  case opens => exact fun slot target => ⟨_, pool.opens slot target⟩
  case closes => exact pool.closes
  case redials => exact fun slot old => sound.redials
  case halves => exact fun slot old => act_redial_of_occupied
  case closeAll => exact closeAll_eq_run sound.names

end Sound

/-- Whatever is done with a pool that starts without handles, it keeps track of them. -/
theorem keepsTrack_run (script : List (Option String)) (fallback : Option String)
    (identities : Nat) (journal : Journal) (actions : List PoolAction) :
    ∃ told, KeepsTrack (.unused script fallback identities journal)
      (run ⟨[], .unused script fallback identities journal⟩ actions) told := by
  have start : Sound ⟨[], .unused script fallback identities journal⟩
      (.unused script fallback identities journal) [] :=
    ⟨.nil, .unused script fallback identities journal⟩
  obtain ⟨told, sound⟩ := start.run actions
  exact ⟨told, sound.keepsTrack⟩

end Pool

end RpcTransport
