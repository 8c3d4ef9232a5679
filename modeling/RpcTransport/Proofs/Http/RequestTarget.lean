import Mathlib.Data.List.TakeWhile
import RpcTransport.Http.Uri

/-! # What request targets are read from

The characters of a path and of a query are judged one by one, wherever they stand. So a target
that is put together from characters of another one reads as it is written, as long as it is
short enough.
-/

namespace RpcTransport.Http

section Size

theorem utf8ByteSize_cons (c : Char) (text : List Char) :
    (String.ofList (c :: text)).utf8ByteSize =
      c.utf8Size + (String.ofList text).utf8ByteSize := by
  rw [String.ofList_cons, String.utf8ByteSize_append, String.utf8ByteSize_singleton]

theorem utf8ByteSize_le_of_sublist {part whole : List Char} (within : part.Sublist whole) :
    (String.ofList part).utf8ByteSize ≤ (String.ofList whole).utf8ByteSize := by
  induction within with
  | slnil => exact Nat.le_refl _
  | cons c _ ih =>
      rw [utf8ByteSize_cons]
      omega
  | cons_cons c _ ih =>
      rw [utf8ByteSize_cons, utf8ByteSize_cons]
      omega

end Size

namespace PathAndQuery

structure Plain (target : PathAndQuery) : Prop where
  path : ∀ c ∈ target.path, isPathChar c = true
  query : ∀ c ∈ target.query.getD [], isQueryChar c = true

def Readable (target : PathAndQuery) : Prop :=
  ∃ text, (String.ofList text).utf8ByteSize ≤ maxUriBytes ∧ read? text = some target

variable {text : List Char} {target : PathAndQuery}

theorem Plain.question_not_mem (plain : target.Plain) : '?' ∉ target.path := by
  intro member
  exact absurd (plain.path '?' member) (by decide)

theorem Plain.hash_not_mem (plain : target.Plain) : '#' ∉ target.text := by
  intro member
  have beside : '#' ∉ target.path := fun inside => absurd (plain.path '#' inside) (by decide)
  unfold PathAndQuery.text at member
  cases given : target.query with
  | none =>
      rw [given] at member
      exact beside member
  | some query =>
      rw [given] at member
      rcases List.mem_append.mp member with before | behind
      · exact beside before
      · have inside : '#' ∈ query := List.mem_of_ne_of_mem (by decide) behind
        have judged := plain.query '#'
        rw [given] at judged
        exact absurd (judged inside) (by decide)

/-- A text reads as a target just if the target is written in front of its fragment, where the
    slash of an empty path may be missing. -/
theorem read?_eq_some_iff :
    read? text = some target ↔
      ∃ written : PathAndQuery, written.Plain ∧ written.text = text.takeWhile (· != '#') ∧
        target = { written with path := if written.path = [] then ['/'] else written.path } := by
  unfold read?
  constructor
  · intro read
    cases split : splitFirst? '?' (text.takeWhile (· != '#')) with
    | none =>
        simp only [split, Option.getD_none, List.all_nil, Bool.and_true,
          Option.ite_none_right_eq_some, Option.some.injEq] at read
        obtain ⟨plain, rfl⟩ := read
        refine ⟨⟨text.takeWhile (· != '#'), none⟩, ⟨?_, ?_⟩, rfl, rfl⟩
        · exact List.all_eq_true.mp plain
        · exact fun c member => absurd member List.not_mem_nil
    | some parts =>
        obtain ⟨path, query⟩ := parts
        simp only [split, Option.getD_some, Bool.and_eq_true,
          Option.ite_none_right_eq_some, Option.some.injEq] at read
        obtain ⟨⟨plain, behind⟩, rfl⟩ := read
        refine ⟨⟨path, some query⟩, ⟨?_, ?_⟩, ?_, rfl⟩
        · exact List.all_eq_true.mp plain
        · exact List.all_eq_true.mp behind
        · exact (splitFirst?_eq_some_iff.mp split).1.symm
  · rintro ⟨⟨path, query⟩, plain, written, rfl⟩
    have absent : '?' ∉ path := plain.question_not_mem
    have path_plain : path.all isPathChar = true := List.all_eq_true.mpr plain.path
    have query_plain : (query.getD []).all isQueryChar = true := List.all_eq_true.mpr plain.query
    rw [← written]
    cases query with
    | none =>
        have split : splitFirst? '?' path = none := splitFirst?_eq_none_iff.mpr absent
        simp only [PathAndQuery.text, split, path_plain, query_plain, Bool.and_self, if_true]
    | some query =>
        have split : splitFirst? '?' (path ++ '?' :: query) = some (path, query) :=
          splitFirst?_eq_some_iff.mpr ⟨rfl, absent⟩
        simp only [PathAndQuery.text, split, path_plain, query_plain, Bool.and_self, if_true]

theorem read?_text (plain : target.Plain) (filled : target.path ≠ []) :
    read? target.text = some target := by
  refine read?_eq_some_iff.mpr ⟨target, plain, ?_, ?_⟩
  · refine (List.takeWhile_eq_self_iff.mpr fun c member => ?_).symm
    exact bne_iff_ne.mpr fun same => plain.hash_not_mem (same ▸ member)
  · rw [if_neg filled]

theorem Readable.plain (readable : target.Readable) : target.Plain := by
  obtain ⟨text, -, read⟩ := readable
  obtain ⟨written, plain, -, rfl⟩ := read?_eq_some_iff.mp read
  refine ⟨fun c member => ?_, plain.query⟩
  dsimp only at member
  split at member
  · rw [List.mem_singleton.mp member]
    decide
  · exact plain.path c member

/-- A readable target is no longer than the limit, but for the slash of an empty path. -/
theorem Readable.size_le (readable : target.Readable) :
    (String.ofList target.text).utf8ByteSize ≤ maxUriBytes + 1 := by
  obtain ⟨text, short, read⟩ := readable
  obtain ⟨⟨path, query⟩, -, front, rfl⟩ := read?_eq_some_iff.mp read
  have bound : (String.ofList (PathAndQuery.text ⟨path, query⟩)).utf8ByteSize ≤ maxUriBytes := by
    rw [front]
    exact Nat.le_trans (utf8ByteSize_le_of_sublist (List.takeWhile_sublist _)) short
  by_cases empty : path = []
  · have slash : PathAndQuery.text ⟨['/'], query⟩ = '/' :: PathAndQuery.text ⟨path, query⟩ := by
      rw [empty]
      cases query <;> rfl
    have one : '/'.utf8Size = 1 := rfl
    rw [if_pos empty, slash, utf8ByteSize_cons]
    omega
  · rw [if_neg empty]
    exact Nat.le_succ_of_le bound

end PathAndQuery

namespace Uri

structure Valid (uri : Uri) : Prop where
  readable : ∀ target, uri.target = some target → target.Readable
  /-- In front of a path there are both a scheme and an authority, or neither. -/
  paired : uri.target.isSome = true → uri.scheme.isSome = uri.authority.isSome

theorem suffix_of_splitScheme {text scheme rest : List Char}
    (found : splitScheme text = some (some (scheme, rest))) : rest <:+ text := by
  have dropped : ∀ {word : List Char} {behind : List Char},
      dropStartCaseless? word text = some behind → behind <:+ text := by
    intro word behind start
    unfold dropStartCaseless? at start
    split at start
    · rw [← Option.some.inj start]
      exact List.drop_suffix _ _
    · cases start
  unfold splitScheme at found
  split at found
  · next behind start =>
      cases found
      exact dropped start
  · next behind _ start =>
      cases found
      exact dropped start
  · split at found
    · cases found
    · dsimp only at found
      split at found
      · next behind drop =>
          split at found
          · cases found
          · cases found
            have tail : rest <:+ ':' :: '/' :: '/' :: rest := ⟨[':', '/', '/'], rfl⟩
            exact tail.trans (drop ▸ List.drop_suffix _ _)
      · cases found

theorem valid_of_readFull? {text : List Char} {uri : Uri}
    (short : (String.ofList text).utf8ByteSize ≤ maxUriBytes)
    (read : readFull? text = some uri) : uri.Valid := by
  unfold readFull? at read
  split at read
  · cases read
  · split at read
    · cases read
    · cases read
      exact ⟨fun target given => (by cases given), fun given => (by cases given)⟩
  · next scheme rest found =>
      dsimp only at read
      split at read
      · cases read
      · obtain ⟨target, behind, rfl⟩ := Option.map_eq_some_iff.mp read
        refine ⟨fun other given => ?_, fun _ => rfl⟩
        cases given
        refine ⟨_, Nat.le_trans (utf8ByteSize_le_of_sublist ?_) short, behind⟩
        exact ((List.drop_suffix _ rest).trans (suffix_of_splitScheme found)).sublist

theorem valid_of_parse {text : String} {uri : Uri} (parsed : parse text = some uri) :
    uri.Valid := by
  unfold parse read? at parsed
  split at parsed
  · cases parsed
  · next long =>
      have short := Nat.le_of_not_lt long
      split at parsed
      · cases parsed
      · cases parsed
        refine ⟨fun target given => ?_, fun _ => rfl⟩
        cases given
        exact ⟨['*'], by decide, rfl⟩
      · next rest written =>
          obtain ⟨target, read, rfl⟩ := Option.map_eq_some_iff.mp parsed
          refine ⟨fun other given => ?_, fun _ => rfl⟩
          cases given
          exact ⟨_, short, read⟩
      · exact valid_of_readFull? short parsed

end Uri

end RpcTransport.Http
