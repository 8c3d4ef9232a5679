import RpcTransport.Address.HostPort
import RpcTransport.Proofs.Text.Split

/-! # The two forms of an address

An address is `host:port` or, in brackets, `[host]:port`. The split takes apart exactly the
texts of these forms, so the halves of an address are determined by it. Of every other text
it tells what is wrong.
-/

namespace RpcTransport.HostPort

inductive Written : List Char → HostPort → Prop where
  | plain {host port : List Char} (colon : ':' ∉ host) (opening : '[' ∉ host)
      (closing : ']' ∉ host) (last : ':' ∉ port) :
      Written (host ++ ':' :: port) ⟨host, port⟩
  | bracketed {host port : List Char} (closing : ']' ∉ host) (colon : ':' ∉ port) :
      Written ('[' :: (host ++ ']' :: ':' :: port)) ⟨host, port⟩

theorem split_plain {host port : List Char} (colon : ':' ∉ host) (opening : '[' ∉ host)
    (closing : ']' ∉ host) (last : ':' ∉ port) :
    split (host ++ ':' :: port) = .ok ⟨host, port⟩ := by
  have plainly : split (host ++ ':' :: port) = splitPlain (host ++ ':' :: port) := by
    cases host with
    | nil => simp [split]
    | cons c rest => simp [split, (List.ne_of_not_mem_cons opening).symm]
  rw [plainly, splitPlain, splitLast?_append _ last]
  simp only [colon, opening, closing, or_self, if_false]

theorem split_bracketed {host port : List Char} (closing : ']' ∉ host) (colon : ':' ∉ port) :
    split ('[' :: (host ++ ']' :: ':' :: port)) = .ok ⟨host, port⟩ := by
  have first : splitFirst? ']' (host ++ ']' :: ':' :: port) = some (host, ':' :: port) :=
    splitFirst?_eq_some_iff.mpr ⟨rfl, closing⟩
  simp only [split, splitBracketed, first, if_neg colon]

theorem Written.of_splitBracketed {text : List Char} {parts : HostPort}
    (accepted : splitBracketed text = .ok parts) : Written ('[' :: text) parts := by
  rw [splitBracketed] at accepted
  split at accepted
  · cases accepted
  · next host port found =>
      obtain ⟨rfl, closing⟩ := splitFirst?_eq_some_iff.mp found
      split at accepted
      · cases accepted
      · next colon =>
          cases accepted
          exact .bracketed closing colon
  · cases accepted

theorem Written.of_splitPlain {text : List Char} {parts : HostPort}
    (accepted : splitPlain text = .ok parts) : Written text parts := by
  rw [splitPlain] at accepted
  split at accepted
  · cases accepted
  · next host port found =>
      obtain ⟨rfl, last⟩ := splitLast?_eq_some_iff.mp found
      split at accepted
      · cases accepted
      · next colon =>
          split at accepted
          · cases accepted
          · next brackets =>
              cases accepted
              exact .plain colon (fun opening => brackets (.inl opening))
                (fun closing => brackets (.inr closing)) last

theorem split_eq_ok_iff {text : List Char} {parts : HostPort} :
    split text = .ok parts ↔ Written text parts := by
  constructor
  · intro accepted
    rw [split.eq_def] at accepted
    split at accepted
    · exact .of_splitBracketed accepted
    · exact .of_splitPlain accepted
  · intro written
    cases written with
    | plain colon opening closing last => exact split_plain colon opening closing last
    | bracketed closing colon => exact split_bracketed closing colon

theorem Written.unique {text : List Char} {parts others : HostPort} (written : Written text parts)
    (again : Written text others) : parts = others :=
  Except.ok.inj ((split_eq_ok_iff.mpr written).symm.trans (split_eq_ok_iff.mpr again))

section Forms

variable {text host port : List Char}

def Bracketed (text host port : List Char) : Prop :=
  text = '[' :: (host ++ ']' :: ':' :: port) ∧ ']' ∉ host ∧ ':' ∉ port

def Plain (text host port : List Char) : Prop :=
  text = host ++ ':' :: port ∧ ':' ∉ host ∧ '[' ∉ host ∧ ']' ∉ host ∧ ':' ∉ port

theorem written_iff :
    Written text ⟨host, port⟩ ↔ Bracketed text host port ∨ Plain text host port := by
  constructor
  · intro written
    cases written with
    | plain colon opening closing last => exact .inr ⟨rfl, colon, opening, closing, last⟩
    | bracketed closing colon => exact .inl ⟨rfl, closing, colon⟩
  · rintro (⟨rfl, closing, colon⟩ | ⟨rfl, colon, opening, closing, last⟩)
    · exact .bracketed closing colon
    · exact .plain colon opening closing last

/-- In both forms the port stands behind the last colon. -/
theorem Written.exists_before (written : Written text ⟨host, port⟩) :
    ∃ before, text = before ++ ':' :: port ∧ ':' ∉ port := by
  cases written with
  | plain colon opening closing last => exact ⟨host, rfl, last⟩
  | bracketed closing colon => exact ⟨'[' :: (host ++ [']']), by simp, colon⟩

theorem Plain.head?_ne (plain : Plain text host port) : text.head? ≠ some '[' := by
  obtain ⟨rfl, -, opening, -, -⟩ := plain
  cases host with
  | nil => simp
  | cons c rest => simpa using (List.ne_of_not_mem_cons opening).symm

end Forms

/-- What is wrong with a text that is no address. -/
inductive Fault : List Char → SplitError → Prop where
  | unclosed {rest : List Char} (closing : ']' ∉ rest) : Fault ('[' :: rest) .missingBracket
  | portless {host behind : List Char} (closing : ']' ∉ host) (colon : behind.head? ≠ some ':') :
      Fault ('[' :: (host ++ ']' :: behind)) .missingPort
  | crowdedPort {host port : List Char} (closing : ']' ∉ host) (colon : ':' ∈ port) :
      Fault ('[' :: (host ++ ']' :: ':' :: port)) .tooManyColons
  | colonless {text : List Char} (bare : text.head? ≠ some '[') (colon : ':' ∉ text) :
      Fault text .missingPort
  | crowded {text : List Char} (bare : text.head? ≠ some '[') (colons : 2 ≤ text.count ':') :
      Fault text .tooManyColons
  | bracket {host port : List Char} (bare : (host ++ ':' :: port).head? ≠ some '[')
      (colon : ':' ∉ host) (last : ':' ∉ port) (brackets : '[' ∈ host ∨ ']' ∈ host) :
      Fault (host ++ ':' :: port) .unexpectedBracket

theorem split_of_bare {text : List Char} (bare : text.head? ≠ some '[') :
    split text = splitPlain text := by
  cases text with
  | nil => rfl
  | cons c rest =>
      have other : c ≠ '[' := fun same => bare (congrArg some same)
      simp [split, other]

theorem Fault.of_splitBracketed {text : List Char} {e : SplitError}
    (refused : splitBracketed text = .error e) : Fault ('[' :: text) e := by
  rw [splitBracketed] at refused
  split at refused
  · next unclosed =>
      cases refused
      exact .unclosed (splitFirst?_eq_none_iff.mp unclosed)
  · next host port found =>
      obtain ⟨rfl, closing⟩ := splitFirst?_eq_some_iff.mp found
      split at refused
      · next colon =>
          cases refused
          exact .crowdedPort closing colon
      · cases refused
  · next host behind other found =>
      obtain ⟨rfl, closing⟩ := splitFirst?_eq_some_iff.mp found
      cases refused
      refine .portless closing fun colon => ?_
      obtain ⟨port, rfl⟩ := List.head?_eq_some_iff.mp colon
      exact other port rfl

theorem Fault.of_splitPlain {text : List Char} {e : SplitError} (bare : text.head? ≠ some '[')
    (refused : splitPlain text = .error e) : Fault text e := by
  rw [splitPlain] at refused
  split at refused
  · next absent =>
      cases refused
      refine .colonless bare fun colon => ?_
      obtain ⟨before, behind, rfl, last⟩ := exists_last_of_mem colon
      rw [splitLast?_append before last] at absent
      cases absent
  · next host port found =>
      obtain ⟨rfl, last⟩ := splitLast?_eq_some_iff.mp found
      split at refused
      · next colon =>
          cases refused
          have positive := List.count_pos_iff.mpr colon
          refine .crowded bare ?_
          rw [List.count_append, List.count_cons_self]
          omega
      · next colon =>
          split at refused
          · next brackets =>
              cases refused
              exact .bracket bare colon last brackets
          · cases refused

theorem Fault.split_eq {text : List Char} {e : SplitError} (fault : Fault text e) :
    split text = .error e := by
  cases fault with
  | unclosed closing =>
      simp only [split, splitBracketed, splitFirst?_eq_none_iff.mpr closing]
  | @portless host behind closing colon =>
      rw [split, splitBracketed, splitFirst?_eq_some_iff.mpr ⟨rfl, closing⟩]
      cases behind with
      | nil => rfl
      | cons c rest =>
          have other : c ≠ ':' := fun same => colon (congrArg some same)
          simp [other]
  | crowdedPort closing colon =>
      simp only [split, splitBracketed, splitFirst?_eq_some_iff.mpr ⟨rfl, closing⟩, if_pos colon]
  | colonless bare colon => rw [split_of_bare bare, splitPlain, splitLast?_eq_none colon]
  | crowded bare colons =>
      obtain ⟨before, behind, rfl, last⟩ :=
        exists_last_of_mem (List.count_pos_iff.mp (by omega : 0 < text.count ':'))
      rw [List.count_append, List.count_cons_self, List.count_eq_zero.mpr last] at colons
      have colon : ':' ∈ before := List.count_pos_iff.mp (by omega)
      simp only [split_of_bare bare, splitPlain, splitLast?_append before last, if_pos colon]
  | bracket bare colon last brackets =>
      simp only [split_of_bare bare, splitPlain, splitLast?_append _ last, if_neg colon,
        if_pos brackets]

theorem split_eq_error_iff {text : List Char} {e : SplitError} :
    split text = .error e ↔ Fault text e := by
  constructor
  · intro refused
    by_cases opening : text.head? = some '['
    · obtain ⟨rest, rfl⟩ := List.head?_eq_some_iff.mp opening
      exact .of_splitBracketed refused
    · rw [split_of_bare opening] at refused
      exact .of_splitPlain opening refused
  · exact Fault.split_eq

theorem Fault.unique {text : List Char} {e other : SplitError} (fault : Fault text e)
    (again : Fault text other) : e = other :=
  Except.error.inj (fault.split_eq.symm.trans again.split_eq)

theorem Fault.not_written {text : List Char} {e : SplitError} {parts : HostPort}
    (fault : Fault text e) : ¬ Written text parts := by
  intro written
  cases fault.split_eq.symm.trans (split_eq_ok_iff.mpr written)

structure SplitsByForm (text : List Char) : Prop where
  /-- It accepts the two forms, with their halves. -/
  accepts (host port : List Char) : split text = .ok ⟨host, port⟩ ↔
    Bracketed text host port ∨ Plain text host port
  /-- No text has both forms. -/
  apart (host port other last : List Char) :
    ¬ (Bracketed text host port ∧ Plain text other last)
  /-- No text has other halves. -/
  unique (host port other last : List Char) : Bracketed text host port ∨ Plain text host port →
    Bracketed text other last ∨ Plain text other last → host = other ∧ port = last
  /-- It refuses every other text for its first fault. -/
  refuses (e : SplitError) : split text = .error e ↔ Fault text e

/-- The split accepts the texts of the two forms, and names what is wrong with the others. -/
theorem split_splitsByForm (text : List Char) : SplitsByForm text := by
  have accepts (host port : List Char) :
      split text = .ok ⟨host, port⟩ ↔ Bracketed text host port ∨ Plain text host port :=
    split_eq_ok_iff.trans written_iff
  refine ⟨accepts, ?_, ?_, fun e => split_eq_error_iff⟩
  · rintro host port other last ⟨⟨rfl, -, -⟩, plain⟩
    exact plain.head?_ne rfl
  · intro host port other last first second
    have same := ((accepts host port).mpr first).symm.trans ((accepts other last).mpr second)
    cases same
    exact ⟨rfl, rfl⟩

end RpcTransport.HostPort
