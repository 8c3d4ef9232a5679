import RpcTransport.Client.Pool
import RpcTransport.Proofs.Client.Generations
import RpcTransport.Proofs.NamedEntries

/-! # What is done with the slots of a pool

Opening and closing are what everything comes down to: a redial closes its slot and then opens
it again on the old target, whatever may happen in between, and letting go of all handles closes
the slots in turn. Both have to do with one slot only. An open dials once, and the handle that
it takes the place of is let go of behind the dial; for a redial it is the other way round.
-/

namespace RpcTransport

def Handle.closure (handle : Handle) : Notice :=
  .connectionClosed handle.id handle.target.address

def Transport.nextDial (transport : Transport) (target : DialTarget) : DialRecord :=
  ⟨target, transport.live, transport.kept, transport.nextOutcome,
    transport.journal.notices.length⟩

namespace Pool

variable {pool : Pool} {slot : String} {old : Handle} {failure : String}

def vacated (pool : Pool) (slot : String) (old : Handle) : Pool :=
  ⟨pool.without slot, old.close pool.transport⟩

section Acts

theorem act_close_of_vacant (vacant : pool.get? slot = none) :
    pool.act (.close slot) = (none, pool) := by
  simp only [act, vacant]

theorem act_close_of_occupied (occupied : pool.get? slot = some old) :
    pool.act (.close slot) = (none, pool.vacated slot old) := by
  simp only [act, occupied, vacated]

theorem act_establish_of_refused (refused : pool.transport.nextOutcome = some failure)
    (slot : String) (target : DialTarget) :
    pool.act (.establish slot target) =
      (some failure, { pool with transport := pool.transport.recordDial target }) := by
  simp only [act, Handle.connect_of_failure refused]

theorem act_establish_of_vacant (accepted : pool.transport.nextOutcome = none)
    (vacant : pool.get? slot = none) (target : DialTarget) :
    pool.act (.establish slot target) =
      (none, ⟨fill pool.slots slot (.next target pool.transport),
        pool.transport.established target⟩) := by
  simp only [act, Handle.connect_of_success accepted, vacant]

theorem act_establish_of_occupied (accepted : pool.transport.nextOutcome = none)
    (occupied : pool.get? slot = some old) (target : DialTarget) :
    pool.act (.establish slot target) =
      (none, ⟨fill pool.slots slot (.next target pool.transport),
        old.close (pool.transport.established target)⟩) := by
  simp only [act, Handle.connect_of_success accepted, occupied]

theorem act_redial_of_vacant (vacant : pool.get? slot = none) :
    pool.act (.redial slot) = (none, pool) := by
  simp only [act, vacant]

end Acts

section Slots

variable (pool) (slot) (old) (other : String) (handle : Handle) (transport : Transport)

theorem lookup_without :
    (pool.without slot).lookup other = if other = slot then none else pool.get? other :=
  lookup_filter_ne pool.slots slot other

theorem get?_vacated :
    (pool.vacated slot old).get? other = if other = slot then none else pool.get? other :=
  pool.lookup_without slot other

theorem get?_fill :
    get? ⟨fill pool.slots slot handle, transport⟩ other =
      if other = slot then some handle else pool.get? other := by
  change (pool.without slot ++ [(slot, handle)]).lookup other = _
  rw [List.lookup_append, lookup_without, List.lookup_cons]
  by_cases same : other = slot
  · rw [if_pos same, if_pos same, beq_iff_eq.mpr same, Option.none_or]
  · rw [if_neg same, if_neg same, beq_eq_false_iff_ne.mpr same, List.lookup_nil, Option.or_none]

theorem handles_fill :
    (fill pool.slots slot handle).map (·.2) = (pool.without slot).map (·.2) ++ [handle] :=
  List.map_append

theorem fill_without : fill (pool.without slot) slot handle = fill pool.slots slot handle := by
  unfold fill without
  rw [List.filter_filter]
  simp only [Bool.and_self]

end Slots

/-- A redial closes its slot and then opens it again on the target of the old handle. -/
theorem act_redial_of_occupied (occupied : pool.get? slot = some old) :
    pool.act (.redial slot) =
      (pool.act (.close slot)).2.act (.establish slot old.target) := by
  have vacant := pool.get?_vacated slot old slot
  rw [if_pos rfl, vacated] at vacant
  rw [act_close_of_occupied occupied, vacated]
  simp only [act, occupied, vacant, Handle.redial, fill_without]

theorem closeAll_eq_run (distinct : (pool.slots.map (·.1)).Nodup) :
    pool.closeAll = pool.run (pool.slots.map fun entry => .close entry.1) := by
  obtain ⟨slots, transport⟩ := pool
  induction slots generalizing transport with
  | nil => rfl
  | cons entry rest ih =>
      obtain ⟨name, handle⟩ := entry
      obtain ⟨absent, distinct⟩ := List.nodup_cons.mp distinct
      have occupied : get? ⟨(name, handle) :: rest, transport⟩ name = some handle :=
        List.lookup_cons_self
      have others : vacated ⟨(name, handle) :: rest, transport⟩ name handle =
          ⟨rest, handle.close transport⟩ := by
        rw [vacated, without, List.filter_cons_of_neg (by simp), List.filter_eq_self.mpr]
        intro entry member
        exact decide_eq_true fun same => absent (List.mem_map.mpr ⟨entry, member, same⟩)
      have next := ih (handle.close transport) distinct
      rw [List.map_cons, run, List.foldl_cons, act_close_of_occupied occupied, others]
      exact next

structure Closes (pool : Pool) (slot : String) (answer : Option String × Pool) : Prop where
  failure : answer.1 = none
  dials : answer.2.transport.dials = pool.transport.dials
  identities : answer.2.transport.identities = pool.transport.identities
  notices : answer.2.transport.journal.notices =
    pool.transport.journal.notices ++ (pool.get? slot).toList.map (·.closure)
  own : answer.2.get? slot = none
  others : ∀ other, other ≠ slot → answer.2.get? other = pool.get? other

theorem closes (pool : Pool) (slot : String) : pool.Closes slot (pool.act (.close slot)) := by
  cases occupied : pool.get? slot with
  | none =>
      rw [act_close_of_vacant occupied]
      refine ⟨rfl, rfl, rfl, ?_, occupied, fun _ _ => rfl⟩
      rw [occupied]
      exact (List.append_nil _).symm
  | some old =>
      rw [act_close_of_occupied occupied]
      refine ⟨rfl, rfl, rfl, ?_, ?_, ?_⟩
      · rw [occupied]
        rfl
      · rw [get?_vacated, if_pos rfl]
      · intro other apart
        rw [get?_vacated, if_neg apart]

/-- A slot is opened on a target, which is dialed for it. If that fails, the slot stays as it
    was. -/
structure Opens (pool : Pool) (slot : String) (target : DialTarget) (record : DialRecord)
    (answer : Option String × Pool) : Prop where
  dials : answer.2.transport.dials = pool.transport.dials ++ [record]
  dialed : record.target = target
  outcome : record.failure = pool.transport.nextOutcome
  failure : answer.1 = record.failure
  identities : answer.2.transport.identities =
    pool.transport.identities + successes [record]
  notices : answer.2.transport.journal.notices = pool.transport.journal.notices ++
    if record.failure = none then
      .connectionEstablished ⟨pool.transport.identities + 1⟩ target.address ::
        (pool.get? slot).toList.map (·.closure)
    else []
  own : answer.2.get? slot =
    if record.failure = none then some (.next target pool.transport) else pool.get? slot
  others : ∀ other, other ≠ slot → answer.2.get? other = pool.get? other

theorem opens_of_refused (refused : pool.transport.nextOutcome = some failure)
    (slot : String) (target : DialTarget) :
    pool.Opens slot target (pool.transport.nextDial target)
      (pool.act (.establish slot target)) := by
  have failed : (pool.transport.nextDial target).failure = some failure := refused
  rw [act_establish_of_refused refused]
  refine ⟨rfl, rfl, rfl, failed.symm, ?_, ?_, ?_, fun _ _ => rfl⟩
  · rw [successes_of_refused failed]
    rfl
  · rw [failed]
    exact (List.append_nil _).symm
  · rw [failed]
    rfl

theorem opens_fill (accepted : pool.transport.nextOutcome = none) {target : DialTarget}
    {after : Transport} (dials : after.dials =
      pool.transport.dials ++ [pool.transport.nextDial target])
    (identities : after.identities = pool.transport.identities + 1)
    (notices : after.journal.notices = pool.transport.journal.notices ++
      .connectionEstablished ⟨pool.transport.identities + 1⟩ target.address ::
        (pool.get? slot).toList.map (·.closure)) :
    pool.Opens slot target (pool.transport.nextDial target)
      (none, ⟨fill pool.slots slot (.next target pool.transport), after⟩) := by
  have made : (pool.transport.nextDial target).failure = none := accepted
  refine ⟨dials, rfl, rfl, made.symm, ?_, ?_, ?_, ?_⟩
  · rw [successes_of_succeeded (DialRecord.succeeded_of_accepted made)]
    exact identities
  · rw [if_pos made]
    exact notices
  · rw [get?_fill, if_pos rfl, if_pos made]
  · intro other apart
    rw [get?_fill, if_neg apart]

theorem opens (pool : Pool) (slot : String) (target : DialTarget) :
    pool.Opens slot target (pool.transport.nextDial target)
      (pool.act (.establish slot target)) := by
  cases outcome : pool.transport.nextOutcome with
  | some failure => exact opens_of_refused outcome slot target
  | none =>
      cases occupied : pool.get? slot with
      | none =>
          rw [act_establish_of_vacant outcome occupied]
          apply opens_fill outcome rfl rfl
          rw [occupied]
          rfl
      | some old =>
          rw [act_establish_of_occupied outcome occupied]
          apply opens_fill outcome rfl rfl
          rw [occupied]
          exact List.append_assoc _ [_] [_]

end Pool

end RpcTransport
