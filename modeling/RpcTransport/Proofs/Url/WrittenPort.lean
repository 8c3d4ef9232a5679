import Mathlib.Data.List.TakeWhile
import RpcTransport.Proofs.Url.PlainHost
import RpcTransport.Url.Port

/-! # The port a URL writes out

A URL of a web scheme with a plain host gives the port behind its host, unless the scheme
implies the same one. No URL gives more than a port number.
-/

namespace RpcTransport.Url

inductive WebScheme where
  | http
  | https
  deriving DecidableEq

namespace WebScheme

def text : WebScheme → String
  | .http => "http"
  | .https => "https"

def impliedPort : WebScheme → Nat
  | .http => 80
  | .https => 443

theorem defaultPort?_text (scheme : WebScheme) :
    defaultPort? scheme.text.toList = some scheme.impliedPort := by
  cases scheme <;> decide

theorem splitScheme?_text (scheme : WebScheme) (rest : List Char) :
    splitScheme? (scheme.text.toList ++ ':' :: rest) = some (scheme.text.toList, rest) := by
  have split : splitFirst? ':' (scheme.text.toList ++ ':' :: rest) =
      some (scheme.text.toList, rest) :=
    splitFirst?_eq_some_iff.mpr ⟨rfl, by cases scheme <;> decide⟩
  rw [splitScheme?, split]
  cases scheme <;> rfl

end WebScheme

section Parts

theorem cleanUrl_of_visible {text : List Char} (visible : ∀ c ∈ text, 0x20 < c.toNat) :
    cleanUrl text = text := by
  have undropped {text : List Char} (visible : ∀ c ∈ text, 0x20 < c.toNat) :
      text.dropWhile (fun c => decide (c.toNat ≤ 0x20)) = text := by
    rw [List.dropWhile_eq_self_iff]
    intro inside
    simpa using visible text[0] (List.getElem_mem inside)
  have backwards : ∀ c ∈ text.reverse, 0x20 < c.toNat :=
    fun c member => visible c (List.mem_reverse.mp member)
  simp only [cleanUrl, undropped visible, undropped backwards, List.reverse_reverse]
  rw [List.filter_eq_self]
  intro c member
  have dark := visible c member
  simp only [Bool.and_eq_true, bne_iff_ne]
  refine ⟨⟨?_, ?_⟩, ?_⟩ <;>
    · rintro rfl
      exact absurd dark (by decide)

theorem splitHost_append {host : List Char} (plain : ∀ c ∈ host, isHostChar c = true)
    (rest : List Char) : splitHost false (host ++ ':' :: rest) = (host, ':' :: rest) := by
  induction host with
  | nil => simp [splitHost]
  | cons c host ih =>
      obtain ⟨first, others⟩ := List.forall_mem_cons.mp plain
      have meaningless := (ascii_of_isHostChar first).2
      simp only [List.mem_cons, not_or] at meaningless
      simp [splitHost, meaningless, ih others]

theorem isHost_of_plain {host : List Char} (plain : PlainHost host) : isHost true host = true := by
  have open? : host.head? ≠ some '[' :=
    fun bracket => absurd (plain.characters '[' (List.mem_of_head? bracket)) (by decide)
  rw [isHost.eq_def]
  split
  · exact absurd rfl open?
  · exact plain.isDomain

end Parts

section Authority

variable {host digits : List Char} {number : Nat}

theorem characters_of_plain (plain : PlainHost host) (spells : Decimal.Spells digits number) :
    ∀ c ∈ host ++ ':' :: digits, 0x20 < c.toNat ∧ c ∉ ['/', '\\', '?', '#', '@'] := by
  have ofHost {c : Char} (hosted : isHostChar c = true) :
      0x20 < c.toNat ∧ c ∉ ['/', '\\', '?', '#', '@'] := by
    obtain ⟨visible, meaningless⟩ := ascii_of_isHostChar hosted
    simp only [List.mem_cons, not_or] at meaningless ⊢
    simp [visible, meaningless]
  intro c member
  rcases List.mem_append.mp member with inside | behind
  · exact ofHost (plain.characters c inside)
  · rcases List.mem_cons.mp behind with rfl | digit
    · decide
    · exact ofHost (by simp [isHostChar, isNameChar_of_isDigit (spells.isDigit c digit)])

theorem authorityOf_of_plain (plain : PlainHost host) (spells : Decimal.Spells digits number) :
    authorityOf true (host ++ ':' :: digits) = host ++ ':' :: digits := by
  rw [authorityOf, List.takeWhile_eq_self_iff]
  intro c member
  have meaningless := (characters_of_plain plain spells c member).2
  simp only [List.mem_cons, not_or] at meaningless
  simp [meaningless]

theorem writtenPort?_of_spells (spells : Decimal.Spells digits number) (small : number < 65536) :
    writtenPort? digits = some number := by
  have all : digits.takeWhile (· != '\\') = digits := by
    rw [List.takeWhile_eq_self_iff]
    intro c member
    rw [bne_iff_ne]
    rintro rfl
    exact spells.not_mem (by decide) member
  rw [writtenPort?, all, Decimal.readBelow?_eq_some_iff]
  exact ⟨spells, small⟩

/-- The port of a plain host is given unless the scheme implies it. -/
theorem authorityPort?_of_plain (scheme : WebScheme) (plain : PlainHost host)
    (spells : Decimal.Spells digits number) (small : number < 65536) :
    authorityPort? scheme.text.toList (host ++ ':' :: digits) =
      if number = scheme.impliedPort then none else some number := by
  have anonymous : '@' ∉ host ++ ':' :: digits :=
    fun member => (characters_of_plain plain spells '@' member).2 (by decide)
  simp only [authorityPort?, dropUser?, splitLast?_eq_none anonymous,
    splitHost_append plain.characters, WebScheme.defaultPort?_text, Option.isSome_some,
    isHost_of_plain plain, if_true, writtenPort?_of_spells spells small, Option.filter_some,
    ne_eq, Option.some.injEq, decide_not, Bool.not_eq_eq_eq_not, Bool.not_true,
    decide_eq_false_iff_not, ite_not]

theorem port?_of_plain (scheme : WebScheme) (plain : PlainHost host)
    (spells : Decimal.Spells digits number) (small : number < 65536) :
    port? (scheme.text.toList ++ "://".toList ++ host ++ ':' :: digits) =
      if number = scheme.impliedPort then none else some number := by
  have shape : scheme.text.toList ++ "://".toList ++ host ++ ':' :: digits =
      scheme.text.toList ++ ':' :: '/' :: '/' :: (host ++ ':' :: digits) := by
    simp
  have visible : ∀ c ∈ scheme.text.toList ++ ':' :: '/' :: '/' :: (host ++ ':' :: digits),
      0x20 < c.toNat := by
    have start : (scheme.text.toList ++ [':', '/', '/']).all (0x20 < ·.toNat) = true := by
      cases scheme <;> decide
    intro c member
    rw [List.append_cons, List.append_cons, List.append_cons] at member
    rcases List.mem_append.mp member with front | behind
    · exact of_decide_eq_true (List.all_eq_true.mp start c (by simpa using front))
    · exact (characters_of_plain plain spells c behind).1
  have slashes : ('/' :: '/' :: (host ++ ':' :: digits)).dropWhile
      (fun c => c == '/' || c == '\\') = host ++ ':' :: digits := by
    obtain ⟨first, rest, rfl⟩ := List.exists_cons_of_ne_nil plain.ne_nil
    have meaningless := (ascii_of_isHostChar (plain.characters first List.mem_cons_self)).2
    simp only [List.mem_cons, not_or] at meaningless
    simp [meaningless]
  have other : String.ofList scheme.text.toList ≠ "file" := by
    cases scheme <;> decide
  simp only [shape, port?, cleanUrl_of_visible visible, scheme.splitScheme?_text, if_neg other,
    scheme.defaultPort?_text, Option.isSome_some, if_true, slashes,
    authorityOf_of_plain plain spells, authorityPort?_of_plain scheme plain spells small]

end Authority

theorem authorityPort?_lt {scheme authority : List Char} {number : Nat}
    (read : authorityPort? scheme authority = some number) : number < 65536 := by
  simp only [authorityPort?] at read
  split at read
  · cases read
  · split at read
    · split at read
      · obtain ⟨written, -⟩ := Option.filter_eq_some_iff.mp read
        exact (Decimal.readBelow?_eq_some_iff.mp written).2
      · cases read
    · cases read

theorem port?_lt {text : List Char} {number : Nat} (read : port? text = some number) :
    number < 65536 := by
  simp only [port?] at read
  split at read
  · cases read
  · split at read
    · cases read
    · split at read
      · exact authorityPort?_lt read
      · split at read
        · exact authorityPort?_lt read
        · cases read

end RpcTransport.Url
