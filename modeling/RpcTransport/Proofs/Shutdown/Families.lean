import RpcTransport.Proofs.NamedEntries
import RpcTransport.Proofs.Shutdown.Attention
import RpcTransport.Proofs.Shutdown.Ways

/-! # Families of coordinators

However coordinators are cloned, renamed over and dropped, a family has as many senders as there
are coordinators of it, its flag is up just if one of them has been triggered, and none of its
signals has overlooked that.
-/

namespace RpcTransport

namespace ShutdownRun

theorem watch_modify (run : ShutdownRun) (family : Nat) (change : Watch → Watch) (other : Nat) :
    (run.modify family change).watch other =
      if family = other ∧ other < run.families.length then change (run.watch other)
      else run.watch other := by
  unfold watch modify
  rw [List.getElem?_modify]
  by_cases inside : other < run.families.length
  · by_cases same : family = other <;> simp [inside, same]
  · simp [inside]

def members (run : ShutdownRun) (family : Nat) : Nat :=
  (run.coordinators.map (·.2)).count family

@[simp] theorem members_modify (run : ShutdownRun) (family : Nat) (change : Watch → Watch) :
    (run.modify family change).members = run.members := rfl

/-- The watches are those of the coordinators with names and of some that have none yet, and no
    signal has overlooked anything. -/
structure Tallied (run : ShutdownRun) (unnamed : List Nat) : Prop where
  distinct : (run.coordinators.map (·.1)).Nodup
  senders : ∀ family, (run.watch family).senders = run.members family + unnamed.count family
  attentive : ∀ entry ∈ run.signals, entry.2.2.Attentive (run.watch entry.2.1)

section Steps

variable {run : ShutdownRun} {unnamed : List Nat} {coordinator : String} {family : Nat}

theorem known_of_senders (some_left : 0 < (run.watch family).senders) :
    family < run.families.length := by
  rcases Nat.lt_or_ge family run.families.length with inside | outside
  · exact inside
  · have missing : run.families[family]? = none := List.getElem?_eq_none outside
    simp [watch, missing] at some_left

theorem Tallied.known (tallied : run.Tallied unnamed)
    (named : run.coordinators.lookup coordinator = some family) :
    family < run.families.length := by
  apply known_of_senders
  obtain ⟨before, behind, same, -⟩ := List.lookup_eq_some_iff.mp named
  have member : 0 < run.members family := by
    apply List.count_pos_iff.mpr
    rw [same]
    simp
  rw [tallied.senders family]
  omega

/-- A change that no signal minds and that makes up for a difference in senders. -/
theorem Tallied.modify (tallied : run.Tallied unnamed) {change : Watch → Watch} {later : List Nat}
    (known : family < run.families.length)
    (minds : ∀ signal : Signal, signal.Attentive (run.watch family) →
      signal.Attentive (change (run.watch family)))
    (senders : (change (run.watch family)).senders = run.members family + later.count family)
    (others : ∀ other, other ≠ family → later.count other = unnamed.count other) :
    (run.modify family change).Tallied later := by
  constructor
  · exact tallied.distinct
  · intro other
    rw [watch_modify]
    by_cases same : family = other
    · subst same
      simpa [known] using senders
    · have apart := others other (Ne.symm same)
      simpa [same, apart] using tallied.senders other
  · intro entry member
    have before := tallied.attentive entry member
    rw [watch_modify]
    split
    · next both =>
        rw [← both.1] at before ⊢
        exact minds entry.2.2 before
    · exact before

theorem Tallied.addSender (tallied : run.Tallied unnamed)
    (known : family < run.families.length) :
    (run.modify family .addSender).Tallied (family :: unnamed) := by
  have senders := tallied.senders family
  apply tallied.modify known
  · exact fun signal attentive => attentive.congr rfl rfl
  · simp only [Watch.addSender, List.count_cons_self]
    omega
  · exact fun other apart => List.count_cons_of_ne (Ne.symm apart)

theorem Tallied.removeSender (tallied : run.Tallied (family :: unnamed)) :
    (run.modify family .removeSender).Tallied unnamed := by
  have senders := tallied.senders family
  rw [List.count_cons_self] at senders
  apply tallied.modify (known_of_senders (by omega))
  · exact fun signal attentive => attentive.congr rfl rfl
  · simp only [Watch.removeSender]
    omega
  · exact fun other apart => (List.count_cons_of_ne (Ne.symm apart)).symm

theorem Tallied.replace (tallied : run.Tallied unnamed) (known : family < run.families.length) :
    (run.modify family (·.replace true)).Tallied unnamed := by
  apply tallied.modify known
  · exact fun signal attentive => attentive.replace true
  · exact tallied.senders family
  · exact fun other apart => rfl

theorem watch_create (run : ShutdownRun) (other : Nat) :
    ({ run with families := run.families ++ [({} : Watch)] } : ShutdownRun).watch other =
      if other = run.families.length then {} else run.watch other := by
  unfold watch
  rcases Nat.lt_trichotomy other run.families.length with before | same | behind
  · simp [List.getElem?_append_left before, Nat.ne_of_lt before]
  · simp [same]
  · have outside : (run.families ++ [({} : Watch)]).length ≤ other := by
      rw [List.length_append, List.length_singleton]
      omega
    rw [if_neg (Nat.ne_of_gt behind), List.getElem?_eq_none outside,
      List.getElem?_eq_none (Nat.le_of_lt behind)]

theorem watch_length (run : ShutdownRun) :
    run.watch run.families.length = { senders := 0 } := by
  simp [watch]

theorem Tallied.create (tallied : run.Tallied unnamed) :
    ({ run with families := run.families ++ [({} : Watch)] } : ShutdownRun).Tallied
      (run.families.length :: unnamed) := by
  constructor
  · exact tallied.distinct
  · intro other
    have senders := tallied.senders other
    rw [watch_create]
    by_cases same : other = run.families.length
    · -- nobody can have been of a family that was not there
      rw [same, watch_length] at senders
      rw [if_pos same, same, List.count_cons_self]
      simp only [members] at senders ⊢
      omega
    · rw [if_neg same, List.count_cons_of_ne (Ne.symm same)]
      exact senders
  · intro entry member
    have before := tallied.attentive entry member
    rw [watch_create]
    split
    · next same =>
        rw [same, watch_length] at before
        exact before.congr rfl rfl
    · exact before

theorem Tallied.unname (tallied : run.Tallied unnamed)
    (named : run.coordinators.lookup coordinator = some family) :
    ({ run with coordinators := run.coordinators.filter fun entry => entry.1 ≠ coordinator } :
      ShutdownRun).Tallied (family :: unnamed) := by
  obtain ⟨before, behind, same, rest⟩ := exists_filter_of_lookup tallied.distinct named
  constructor
  · exact tallied.distinct.sublist (List.Sublist.map Prod.fst List.filter_sublist)
  · intro other
    have senders := tallied.senders other
    unfold members watch at senders ⊢
    rw [rest]
    rw [same] at senders
    simp only [List.map_append, List.map_cons, List.count_append, List.count_cons] at senders ⊢
    omega
  · exact tallied.attentive

theorem Tallied.name (tallied : run.Tallied (family :: unnamed))
    (free : coordinator ∉ run.coordinators.map (·.1)) :
    ({ run with coordinators := run.coordinators ++ [(coordinator, family)] } :
      ShutdownRun).Tallied unnamed := by
  constructor
  · rw [List.map_append]
    refine List.nodup_append.mpr ⟨tallied.distinct, by simp, ?_⟩
    intro other member last single same
    simp only [List.map_cons, List.map_nil, List.mem_singleton] at single
    exact free (single ▸ same ▸ member)
  · intro other
    have senders := tallied.senders other
    simp only [members, watch, List.map_append, List.map_cons, List.map_nil, List.count_append,
      List.count_cons, List.count_nil] at senders ⊢
    omega
  · exact tallied.attentive

theorem forget_of_named (named : run.coordinators.lookup coordinator = some family) :
    run.forget coordinator =
      ({ run with coordinators := run.coordinators.filter fun entry => entry.1 ≠ coordinator } :
        ShutdownRun).modify family .removeSender := by
  unfold forget
  rw [named]
  rfl

theorem forget_of_unnamed (named : run.coordinators.lookup coordinator = none) :
    run.forget coordinator = run := by
  unfold forget
  rw [named]

theorem Tallied.forget (tallied : run.Tallied unnamed) (coordinator : String) :
    (run.forget coordinator).Tallied unnamed := by
  cases named : run.coordinators.lookup coordinator with
  | none => rwa [forget_of_unnamed named]
  | some family =>
      rw [forget_of_named named]
      exact (tallied.unname named).removeSender

theorem not_mem_forget (run : ShutdownRun) (coordinator : String) :
    coordinator ∉ (run.forget coordinator).coordinators.map (·.1) := by
  cases named : run.coordinators.lookup coordinator with
  | none =>
      rw [forget_of_unnamed named]
      intro member
      obtain ⟨entry, among, same⟩ := List.mem_map.mp member
      have other := List.lookup_eq_none_iff.mp named entry among
      simp [same] at other
  | some family =>
      rw [forget_of_named named]
      simp [modify]

theorem Tallied.bind (tallied : run.Tallied (family :: unnamed)) (coordinator : String) :
    (run.bind coordinator family).Tallied unnamed :=
  (tallied.forget coordinator).name (run.not_mem_forget coordinator)

theorem Tallied.signals (tallied : run.Tallied unnamed)
    {later : List (String × Nat × Signal)}
    (attentive : ∀ entry ∈ later, entry.2.2.Attentive (run.watch entry.2.1)) :
    ({ run with signals := later } : ShutdownRun).Tallied unnamed :=
  ⟨tallied.distinct, tallied.senders, attentive⟩

theorem Tallied.mem_withoutSignal (tallied : run.Tallied unnamed) {signal : String}
    {entry : String × Nat × Signal} (member : entry ∈ run.withoutSignal signal) :
    entry.2.2.Attentive (run.watch entry.2.1) :=
  tallied.attentive entry (List.mem_filter.mp member).1

theorem Tallied.renew (tallied : run.Tallied unnamed) (signal : String) {state : Signal}
    (attentive : state.Attentive (run.watch family)) :
    ({ run with signals := run.withoutSignal signal ++ [(signal, family, state)] } :
      ShutdownRun).Tallied unnamed := by
  apply tallied.signals
  intro entry member
  rcases List.mem_append.mp member with old | new
  · exact tallied.mem_withoutSignal old
  · rw [List.mem_singleton.mp new]
    exact attentive

theorem mem_of_lookup {signal : String} {state : Signal}
    (found : run.signals.lookup signal = some (family, state)) :
    (signal, family, state) ∈ run.signals := by
  obtain ⟨before, behind, same, -⟩ := List.lookup_eq_some_iff.mp found
  rw [same]
  simp

theorem Tallied.act (tallied : run.Tallied []) (action : ShutdownAction) :
    (run.act action).2.Tallied [] := by
  have way := run.way_act action
  generalize run.act action = outcome at way
  cases way with
  | unknown lacks => exact tallied
  | created coordinator => exact tallied.create.bind coordinator
  | cloned copy named => exact (tallied.addSender (tallied.known named)).bind copy
  | discarded named => exact tallied.forget _
  | triggered named => exact tallied.replace (tallied.known named)
  | asked named => exact tallied
  | signalled signal named => exact tallied.renew signal (Signal.attentive_ofWatch _)
  | ended found ends => exact tallied.signals fun entry member => tallied.mem_withoutSignal member
  | waits found goes =>
      have attentive := tallied.attentive _ (mem_of_lookup found)
      exact tallied.renew _ (attentive.poll goes)

end Steps

def Deserted (run : ShutdownRun) (family : Nat) : Prop :=
  ∀ entry ∈ run.coordinators, entry.2 ≠ family

section Ends

variable {run : ShutdownRun} {family : Nat}

theorem Tallied.deserted_iff (tallied : run.Tallied []) :
    run.Deserted family ↔ (run.watch family).senders = 0 := by
  rw [tallied.senders family, List.count_nil, Nat.add_zero, members, List.count_eq_zero]
  constructor
  · intro deserted member
    obtain ⟨entry, among, same⟩ := List.mem_map.mp member
    exact deserted entry among same
  · intro absent entry among same
    exact absent (same ▸ List.mem_map_of_mem among)

/-- A wait is over when the flag is up or nobody is left. -/
theorem Tallied.poll_eq_none_iff (tallied : run.Tallied []) {signal : String} {state : Signal}
    (found : run.signals.lookup signal = some (family, state)) :
    state.poll (run.watch family) = none ↔
      (run.watch family).flag = true ∨ run.Deserted family := by
  have attentive := tallied.attentive _ (mem_of_lookup found)
  rw [tallied.deserted_iff]
  exact attentive.poll_eq_none_iff

end Ends

section Flags

theorem flag_create (run : ShutdownRun) (other : Nat) :
    (({ run with families := run.families ++ [({} : Watch)] } : ShutdownRun).watch other).flag =
      (run.watch other).flag := by
  rw [watch_create]
  split
  · next same => rw [same, watch_length]
  · rfl

end Flags

end ShutdownRun

end RpcTransport
