import RpcTransport.Text.Split

/-! # What splitting finds

Each way to split a text takes it apart where it was put together: it finds every
decomposition of its form, and nothing else.
-/

namespace RpcTransport

section Last

variable {separator : Char}

theorem splitLast?_eq_none {text : List Char} (absent : separator ∉ text) :
    splitLast? separator text = none := by
  induction text with
  | nil => rfl
  | cons c rest ih =>
      have other : c ≠ separator := (List.ne_of_not_mem_cons absent).symm
      simp only [splitLast?, ih (List.not_mem_of_not_mem_cons absent), if_neg other]

theorem splitLast?_append (before : List Char) {behind : List Char}
    (absent : separator ∉ behind) :
    splitLast? separator (before ++ separator :: behind) = some (before, behind) := by
  induction before with
  | nil => simp only [List.nil_append, splitLast?, splitLast?_eq_none absent, if_true]
  | cons c rest ih => simp only [List.cons_append, splitLast?, ih]

theorem exists_last_of_mem {text : List Char} (holds : separator ∈ text) :
    ∃ before behind, text = before ++ separator :: behind ∧ separator ∉ behind := by
  obtain ⟨before, behind, reversed, absent⟩ :=
    List.eq_append_cons_of_mem (List.mem_reverse.mpr holds)
  refine ⟨behind.reverse, before.reverse, ?_, fun member => absent (List.mem_reverse.mp member)⟩
  rw [List.reverse_eq_iff.mp reversed]
  simp

theorem splitLast?_eq_some_iff {text before behind : List Char} :
    splitLast? separator text = some (before, behind) ↔
      text = before ++ separator :: behind ∧ separator ∉ behind := by
  constructor
  · intro found
    by_cases holds : separator ∈ text
    · obtain ⟨start, rest, rfl, absent⟩ := exists_last_of_mem holds
      rw [splitLast?_append start absent] at found
      cases found
      exact ⟨rfl, absent⟩
    · rw [splitLast?_eq_none holds] at found
      cases found
  · rintro ⟨rfl, absent⟩
    exact splitLast?_append before absent

end Last

section All

variable {separator : Char}

theorem splitAll_ne_nil (text : List Char) : splitAll separator text ≠ [] := by
  cases text with
  | nil => exact List.cons_ne_nil _ _
  | cons c rest =>
      rw [splitAll]
      split
      · exact List.cons_ne_nil _ _
      · split <;> exact List.cons_ne_nil _ _

theorem splitAll_of_absent {text : List Char} (absent : separator ∉ text) :
    splitAll separator text = [text] := by
  induction text with
  | nil => rfl
  | cons c rest ih =>
      have other : c ≠ separator := (List.ne_of_not_mem_cons absent).symm
      simp only [splitAll, if_neg other, ih (List.not_mem_of_not_mem_cons absent)]

theorem splitAll_append {before : List Char} (absent : separator ∉ before)
    (behind : List Char) :
    splitAll separator (before ++ separator :: behind) =
      before :: splitAll separator behind := by
  induction before with
  | nil => simp only [List.nil_append, splitAll, if_true]
  | cons c rest ih =>
      have other : c ≠ separator := (List.ne_of_not_mem_cons absent).symm
      simp only [List.cons_append, splitAll, if_neg other,
        ih (List.not_mem_of_not_mem_cons absent)]

theorem splitAll_append_cons (before behind : List Char) :
    splitAll separator (before ++ separator :: behind) =
      splitAll separator before ++ splitAll separator behind := by
  induction before with
  | nil => simp only [List.nil_append, splitAll, if_true, List.singleton_append]
  | cons c rest ih =>
      obtain ⟨piece, pieces, split⟩ := List.exists_cons_of_ne_nil (splitAll_ne_nil rest)
      rw [split] at ih
      by_cases same : c = separator
      · simp only [List.cons_append, splitAll, if_pos same, ih, split]
      · simp only [List.cons_append, splitAll, if_neg same, ih, split]

theorem splitAll_eq_cons {text first : List Char} {others : List (List Char)}
    (pieces : splitAll separator text = first :: others) :
    separator ∉ first ∧
      (others = [] ∧ text = first ∨
        ∃ behind, text = first ++ separator :: behind ∧ splitAll separator behind = others) := by
  by_cases holds : separator ∈ text
  · obtain ⟨before, behind, rfl, absent⟩ := List.eq_append_cons_of_mem holds
    rw [splitAll_append absent] at pieces
    cases pieces
    exact ⟨absent, .inr ⟨behind, rfl, rfl⟩⟩
  · rw [splitAll_of_absent holds] at pieces
    cases pieces
    exact ⟨holds, .inl ⟨rfl, rfl⟩⟩

theorem splitAll_eq_pair_iff {text first second : List Char} :
    splitAll separator text = [first, second] ↔
      text = first ++ separator :: second ∧ separator ∉ first ∧ separator ∉ second := by
  constructor
  · intro pieces
    obtain ⟨absent, ⟨single, -⟩ | ⟨behind, rfl, rest⟩⟩ := splitAll_eq_cons pieces
    · cases single
    · obtain ⟨last, ⟨-, rfl⟩ | ⟨others, -, empty⟩⟩ := splitAll_eq_cons rest
      · exact ⟨rfl, absent, last⟩
      · exact absurd empty (splitAll_ne_nil others)
  · rintro ⟨rfl, absent, last⟩
    rw [splitAll_append absent, splitAll_of_absent last]

theorem intercalate_splitAll (text : List Char) :
    List.intercalate [separator] (splitAll separator text) = text := by
  induction text with
  | nil => rfl
  | cons c rest ih =>
      obtain ⟨piece, pieces, split⟩ := List.exists_cons_of_ne_nil (splitAll_ne_nil rest)
      rw [split] at ih
      by_cases same : c = separator
      · rw [splitAll, if_pos same, split, List.intercalate_cons_cons, ih, same]
        rfl
      · rw [splitAll, if_neg same, split]
        cases pieces with
        | nil => simpa using ih
        | cons next pieces =>
            rw [List.intercalate_cons_cons] at ih ⊢
            exact congrArg (c :: ·) ih

theorem flatMap_splitAll (text : List Char) :
    (splitAll separator text).flatMap (separator :: ·) = separator :: text := by
  induction text with
  | nil => rfl
  | cons c rest ih =>
      obtain ⟨piece, pieces, split⟩ := List.exists_cons_of_ne_nil (splitAll_ne_nil rest)
      rw [split, List.flatMap_cons, List.cons_append] at ih
      have behind := List.tail_eq_of_cons_eq ih
      by_cases same : c = separator
      · rw [splitAll, if_pos same, split, same, ← behind]
        rfl
      · rw [splitAll, if_neg same, split, ← behind]
        rfl

theorem not_mem_of_mem_splitAll {text piece : List Char}
    (among : piece ∈ splitAll separator text) : separator ∉ piece := by
  induction text generalizing piece with
  | nil =>
      rw [List.mem_singleton.mp among]
      exact List.not_mem_nil
  | cons c rest ih =>
      obtain ⟨first, pieces, split⟩ := List.exists_cons_of_ne_nil (splitAll_ne_nil rest)
      rw [splitAll, split] at among
      rw [split] at ih
      by_cases same : c = separator
      · rw [if_pos same] at among
        rcases List.mem_cons.mp among with rfl | behind
        · exact List.not_mem_nil
        · exact ih behind
      · rw [if_neg same] at among
        rcases List.mem_cons.mp among with rfl | behind
        · exact List.not_mem_cons_of_ne_of_not_mem (Ne.symm same) (ih List.mem_cons_self)
        · exact ih (List.mem_cons_of_mem first behind)

theorem exists_mem_splitAll {text : List Char} {c : Char} (member : c ∈ text)
    (other : c ≠ separator) : ∃ piece ∈ splitAll separator text, c ∈ piece := by
  induction text with
  | nil => cases member
  | cons d rest ih =>
      have filled : splitAll separator rest ≠ [] := splitAll_ne_nil rest
      obtain ⟨first, pieces, split⟩ := List.exists_cons_of_ne_nil filled
      rw [splitAll, split]
      rw [split] at ih
      by_cases same : d = separator
      · obtain ⟨piece, among, inside⟩ :=
          ih (List.mem_of_ne_of_mem (fun equal => other (equal.trans same)) member)
        rw [if_pos same]
        exact ⟨piece, List.mem_cons_of_mem [] among, inside⟩
      · rw [if_neg same]
        rcases List.mem_cons.mp member with rfl | later
        · exact ⟨c :: first, List.mem_cons_self, List.mem_cons_self⟩
        · obtain ⟨piece, among, inside⟩ := ih later
          rcases List.mem_cons.mp among with rfl | behind
          · exact ⟨d :: piece, List.mem_cons_self, List.mem_cons_of_mem d inside⟩
          · exact ⟨piece, List.mem_cons_of_mem (d :: first) behind, inside⟩

end All

section Word

theorem dropStart?_eq_some_iff {start text rest : List Char} :
    dropStart? start text = some rest ↔ text = start ++ rest := by
  induction start generalizing text with
  | nil => simp [dropStart?]
  | cons c start ih =>
      cases text with
      | nil => simp [dropStart?]
      | cons d text =>
          rw [dropStart?]
          split
          · next same => simp [ih, same]
          · next other => simp [Ne.symm other]

theorem dropStart?_eq_none_iff {start text : List Char} :
    dropStart? start text = none ↔ ¬ start <+: text := by
  rw [Option.eq_none_iff_forall_not_mem]
  constructor
  · rintro absent ⟨rest, same⟩
    exact absent rest (dropStart?_eq_some_iff.mpr same.symm)
  · intro elsewhere rest found
    exact elsewhere ⟨rest, (dropStart?_eq_some_iff.mp found).symm⟩

theorem holdsWord_eq_true_iff {word text : List Char} (nonempty : word ≠ []) :
    holdsWord word text = true ↔ word <:+: text := by
  induction text with
  | nil => simp [holdsWord, splitWord?, nonempty]
  | cons c rest ih =>
      rw [List.infix_cons_iff, ← ih, holdsWord, splitWord?]
      cases start : dropStart? word (c :: rest) with
      | some behind =>
          have beginning : word <+: c :: rest := ⟨behind, (dropStart?_eq_some_iff.mp start).symm⟩
          simp [beginning]
      | none =>
          have elsewhere : ¬ word <+: c :: rest := dropStart?_eq_none_iff.mp start
          simp [elsewhere, holdsWord]

theorem eq_of_splitWord? {word text before behind : List Char}
    (found : splitWord? word text = some (before, behind)) : text = before ++ word ++ behind := by
  induction text generalizing before with
  | nil => cases found
  | cons c rest ih =>
      rw [splitWord?] at found
      split at found
      · next start =>
          cases found
          exact dropStart?_eq_some_iff.mp start
      · obtain ⟨⟨first, last⟩, later, same⟩ := Option.map_eq_some_iff.mp found
        cases same
        exact congrArg (c :: ·) (ih later)

/-- A word does not begin where its first character is missing. -/
theorem splitWord?_append {first : Char} {word start : List Char} (absent : first ∉ start)
    (text : List Char) :
    splitWord? (first :: word) (start ++ text) =
      (splitWord? (first :: word) text).map fun (before, behind) => (start ++ before, behind) := by
  induction start with
  | nil => simp
  | cons c rest ih =>
      have other : first ≠ c := List.ne_of_not_mem_cons absent
      simp only [List.cons_append, splitWord?, dropStart?, if_neg other,
        ih (List.not_mem_of_not_mem_cons absent), Option.map_map]
      rfl

end Word

end RpcTransport
