import Mathlib.Data.List.Flatten
import RpcTransport.Bridge.Path
import RpcTransport.Proofs.Http.RequestTarget
import RpcTransport.Proofs.Text.Split

/-! # Stripping the prefix of a path

The path that is left is made of segments of the one before, so it is as readable and shorter,
and the query behind it is read as before. Stripping never fails, then, and what is left has
nothing more to strip.
-/

namespace RpcTransport.Bridge

open Http (Request Headers PathAndQuery Uri)

section Segments

variable {path service method : List Char} {leading : List (List Char)}

theorem plain_of_mem_segments {segment : List Char} (among : segment ∈ segments path) :
    segment ≠ [] ∧ '/' ∉ segment := by
  obtain ⟨piece, filled⟩ := List.mem_filter.mp among
  exact ⟨of_decide_eq_true filled, not_mem_of_mem_splitAll piece⟩

theorem flatMap_segments_sublist (path : List Char) :
    ((segments path).flatMap ('/' :: ·)).Sublist ('/' :: path) := by
  have whole : (splitAll '/' path).flatMap ('/' :: ·) = '/' :: path := flatMap_splitAll path
  have chosen : (segments path).Sublist (splitAll '/' path) := List.filter_sublist
  exact whole ▸ chosen.flatMap _

theorem segments_root (first : service ≠ [] ∧ '/' ∉ service) (second : method ≠ [] ∧ '/' ∉ method) :
    segments ('/' :: service ++ '/' :: method) = [service, method] := by
  have pieces : splitAll '/' ('/' :: service ++ '/' :: method) = [[], service, method] := by
    rw [List.cons_append, splitAll, if_pos rfl, splitAll_append first.2,
      splitAll_of_absent second.2]
  rw [segments, pieces]
  simp [first.1, second.1]

theorem exists_leading (many : 2 < (segments path).length) :
    ∃ leading service method, segments path = leading ++ [service, method] ∧ leading ≠ [] := by
  have size : (segments path).reverse.length = (segments path).length := List.length_reverse
  match backwards : (segments path).reverse with
  | [] | [_] | [_, _] =>
      simp only [backwards, List.length_cons, List.length_nil] at size
      omega
  | method :: service :: last :: rest =>
      have forwards := List.reverse_eq_iff.mp backwards
      exact ⟨rest.reverse ++ [last], service, method, by simpa using forwards, by simp⟩

theorem many_of_leading (split : segments path = leading ++ [service, method])
    (nested : leading ≠ []) : 2 < (segments path).length := by
  have more := List.length_pos_iff.mpr nested
  rw [split, List.length_append, List.length_cons, List.length_singleton]
  omega

theorem rootResourcePath_of_few (few : (segments path).length ≤ 2) :
    rootResourcePath path = none := by
  unfold rootResourcePath
  split
  · next method service last rest backwards =>
      have size := congrArg List.length backwards
      simp only [List.length_reverse, List.length_cons] at size
      omega
  · rfl

theorem rootResourcePath_of_leading (split : segments path = leading ++ [service, method])
    (nested : leading ≠ []) :
    rootResourcePath path = some ('/' :: service ++ '/' :: method) := by
  obtain ⟨last, rest, backwards⟩ :=
    List.exists_cons_of_ne_nil (mt List.reverse_eq_nil_iff.mp nested)
  unfold rootResourcePath
  rw [split, List.reverse_append, backwards]
  rfl

/-- The path that is left is within the one before it, and so are the slash and the character
    that a leading segment takes at least. -/
theorem root_within (split : segments path = leading ++ [service, method]) (nested : leading ≠ []) :
    ∃ c, ('/' :: c :: ('/' :: service ++ '/' :: method)).Sublist ('/' :: path) := by
  obtain ⟨first, others, rfl⟩ := List.exists_cons_of_ne_nil nested
  have among : first ∈ segments path := by
    rw [split]
    exact List.mem_cons_self
  obtain ⟨c, tail, rfl⟩ := List.exists_cons_of_ne_nil (plain_of_mem_segments among).1
  refine ⟨c, List.Sublist.trans ?_ (flatMap_segments_sublist path)⟩
  rw [split]
  simp only [List.cons_append, List.flatMap_cons, List.flatMap_append, List.flatMap_nil,
    List.append_nil]
  refine .cons_cons _ (.cons_cons _ ?_)
  rw [← List.append_assoc]
  exact List.sublist_append_right _ _

end Segments

section Targets

variable {uri : Uri} {target : PathAndQuery} {service method : List Char}
  {leading : List (List Char)}

theorem readTarget?_root (readable : target.Readable)
    (split : segments target.path = leading ++ [service, method]) (nested : leading ≠ []) :
    readTarget? { target with path := '/' :: service ++ '/' :: method }.text =
      some { target with path := '/' :: service ++ '/' :: method } := by
  obtain ⟨c, within⟩ := root_within split nested
  have plain : { target with path := '/' :: service ++ '/' :: method }.Plain := by
    refine ⟨fun d member => ?_, readable.plain.query⟩
    have inside : d ∈ '/' :: target.path :=
      within.subset (List.mem_cons_of_mem _ (List.mem_cons_of_mem _ member))
    rcases List.mem_cons.mp inside with rfl | inside
    · decide
    · exact readable.plain.path d inside
  have shorter : ('/' :: c :: { target with path := '/' :: service ++ '/' :: method }.text).Sublist
      ('/' :: target.text) := by
    unfold PathAndQuery.text
    cases target.query with
    | none => exact within
    | some query => exact within.append_right ('?' :: query)
  -- what is stripped makes up for the slash that an empty path may have been given
  have size := Http.utf8ByteSize_le_of_sublist shorter
  rw [Http.utf8ByteSize_cons, Http.utf8ByteSize_cons, Http.utf8ByteSize_cons] at size
  have stripped := Char.utf8Size_pos c
  have bound := readable.size_le
  rw [readTarget?, if_neg (by omega)]
  exact PathAndQuery.read?_text plain (List.cons_ne_nil _ _)

theorem replaceTarget?_of_paired (paired : uri.scheme.isSome = uri.authority.isSome)
    (target : PathAndQuery) :
    replaceTarget? uri target = some { uri with target := some target } := by
  obtain ⟨scheme, authority, before⟩ := uri
  cases scheme <;> cases authority <;> first | rfl | cases paired

end Targets

section Requests

def OfGrpcWeb (headers : Headers) : Prop :=
  ∃ value, headers.get? "content-type" = some value ∧
    (∀ c ∈ value.toList, c = '\t' ∨ 0x20 ≤ c.toNat ∧ c.toNat ≤ 0x7E) ∧
      "application/grpc-web".toList <+: value.toList

theorem isReadable_eq_true_iff {value : String} :
    Http.isReadable value = true ↔
      ∀ c ∈ value.toList, c = '\t' ∨ 0x20 ≤ c.toNat ∧ c.toNat ≤ 0x7E := by
  simp only [Http.isReadable, Http.isReadableChar, List.all_eq_true, Bool.or_eq_true,
    Bool.and_eq_true, beq_iff_eq, decide_eq_true_eq, Nat.lt_succ_iff]

theorem isGrpcWeb_eq_true_iff {headers : Headers} :
    isGrpcWeb headers = true ↔ OfGrpcWeb headers := by
  have text_iff : ∀ value, headers.text? "content-type" = some value ↔
      headers.get? "content-type" = some value ∧
        ∀ c ∈ value.toList, c = '\t' ∨ 0x20 ≤ c.toNat ∧ c.toNat ≤ 0x7E := by
    intro value
    rw [Headers.text?, Option.filter_eq_some_iff, isReadable_eq_true_iff]
  have start_iff : ∀ value : String,
      (dropStart? grpcWebContentType.toList value.toList).isSome = true ↔
        "application/grpc-web".toList <+: value.toList := by
    intro value
    simp only [Option.isSome_iff_exists, dropStart?_eq_some_iff]
    exact exists_congr fun rest => eq_comm
  unfold isGrpcWeb
  constructor
  · intro web
    cases given : headers.text? "content-type" with
    | none => simp [given] at web
    | some value =>
        rw [given] at web
        obtain ⟨first, readable⟩ := (text_iff value).mp given
        exact ⟨value, first, readable, (start_iff value).mp web⟩
  · rintro ⟨value, first, readable, start⟩
    rw [(text_iff value).mpr ⟨first, readable⟩]
    exact (start_iff value).mpr start

variable {β : Type} {request : Request β} {service method : List Char}
  {leading : List (List Char)}

theorem stripResourcePrefix_of_plain (plain : ¬ OfGrpcWeb request.headers) :
    stripResourcePrefix request = (request, []) := by
  have other : isGrpcWeb request.headers = false :=
    Bool.eq_false_iff.mpr (mt isGrpcWeb_eq_true_iff.mp plain)
  rw [stripResourcePrefix, other]
  rfl

theorem stripResourcePrefix_of_few (few : (segments request.uri.path).length ≤ 2) :
    stripResourcePrefix request = (request, []) := by
  rw [stripResourcePrefix, rootResourcePath_of_few few]
  split <;> rfl

theorem stripResourcePrefix_of_read {path : List Char} {target : PathAndQuery} {uri : Uri}
    (web : isGrpcWeb request.headers = true) (root : rootResourcePath request.uri.path = some path)
    (read : readTarget? (PathAndQuery.text ⟨path, request.uri.query⟩) = some target)
    (replaces : replaceTarget? request.uri target = some uri) :
    stripResourcePrefix request =
      ({ request with uri }, [.pathRewritten request.uri.text uri.text]) := by
  unfold PathAndQuery.text at read
  rw [stripResourcePrefix, web, root]
  cases given : request.uri.query with
  | none =>
      rw [given] at read
      simp only [read, replaces, Bool.not_true, Bool.false_eq_true, if_false]
  | some query =>
      rw [given] at read
      simp only [read, replaces, Bool.not_true, Bool.false_eq_true, if_false]

def rooted (uri : Uri) (service method : List Char) : Uri :=
  { uri with target := some ⟨'/' :: service ++ '/' :: method, uri.query⟩ }

theorem stripResourcePrefix_of_leading (valid : request.uri.Valid)
    (web : OfGrpcWeb request.headers)
    (split : segments request.uri.path = leading ++ [service, method]) (nested : leading ≠ []) :
    stripResourcePrefix request =
      ({ request with uri := rooted request.uri service method },
        [.pathRewritten request.uri.text (rooted request.uri service method).text]) := by
  have typed : isGrpcWeb request.headers = true := isGrpcWeb_eq_true_iff.mpr web
  cases given : request.uri.target with
  | none =>
      have nothing : segments request.uri.path = [] := by rw [Uri.path, given]; rfl
      rw [nothing] at split
      exact absurd split.symm (by simp)
  | some target =>
      have path : request.uri.path = target.path := by rw [Uri.path, given]
      have query : request.uri.query = target.query := by rw [Uri.query, given]; rfl
      have read := readTarget?_root (valid.readable target given) (path ▸ split) nested
      rw [← query] at read
      have replaces := replaceTarget?_of_paired (valid.paired (by rw [given]; rfl))
        ⟨'/' :: service ++ '/' :: method, request.uri.query⟩
      exact stripResourcePrefix_of_read typed (rootResourcePath_of_leading split nested) read
        replaces

structure StripsPrefix (request : Request β) : Prop where
  method : (stripResourcePrefix request).1.method = request.method
  version : (stripResourcePrefix request).1.version = request.version
  headers : (stripResourcePrefix request).1.headers = request.headers
  body : (stripResourcePrefix request).1.body = request.body
  scheme : (stripResourcePrefix request).1.uri.scheme = request.uri.scheme
  authority : (stripResourcePrefix request).1.uri.authority = request.uri.authority
  query : (stripResourcePrefix request).1.uri.query = request.uri.query
  /-- Other requests than those of gRPC-Web are left alone. -/
  plain : ¬ OfGrpcWeb request.headers → stripResourcePrefix request = (request, [])
  /-- So are those that have nothing to strip. -/
  few : (segments request.uri.path).length ≤ 2 → stripResourcePrefix request = (request, [])
  /-- The last two segments make up the path of the others. -/
  path : OfGrpcWeb request.headers → ∀ leading service method,
    segments request.uri.path = leading ++ [service, method] → leading ≠ [] →
      (stripResourcePrefix request).1.uri.path = '/' :: service ++ '/' :: method
  /-- Once is as good as twice. -/
  again : stripResourcePrefix (stripResourcePrefix request).1 =
    ((stripResourcePrefix request).1, [])
  /-- No path is kept for an error. -/
  unfailing : ∀ error, Notice.pathKept error ∉ (stripResourcePrefix request).2

theorem stripsPrefix_of_kept (kept : stripResourcePrefix request = (request, []))
    (nothing : OfGrpcWeb request.headers → (segments request.uri.path).length ≤ 2) :
    StripsPrefix request := by
  constructor
  case again => rw [kept, kept]
  case plain => exact fun _ => kept
  case few => exact fun _ => kept
  case path =>
    intro web leading service method split nested
    exact absurd (many_of_leading split nested) (Nat.not_lt.mpr (nothing web))
  case unfailing =>
    intro error
    rw [kept]
    exact List.not_mem_nil
  all_goals rw [kept]

theorem stripsPrefix_of_leading (valid : request.uri.Valid) (web : OfGrpcWeb request.headers)
    (split : segments request.uri.path = leading ++ [service, method]) (nested : leading ≠ []) :
    StripsPrefix request := by
  have stripped := stripResourcePrefix_of_leading valid web split nested
  have first : service ≠ [] ∧ '/' ∉ service := plain_of_mem_segments (by rw [split]; simp)
  have second : method ≠ [] ∧ '/' ∉ method := plain_of_mem_segments (by rw [split]; simp)
  constructor
  case again =>
    rw [stripped]
    apply stripResourcePrefix_of_few
    change (segments ('/' :: service ++ '/' :: method)).length ≤ 2
    rw [segments_root first second]
    exact Nat.le_refl 2
  case plain => exact fun other => absurd web other
  case few =>
    intro few
    exact absurd (many_of_leading split nested) (Nat.not_lt.mpr few)
  case path =>
    intro _ others last name pieces _
    obtain ⟨-, same⟩ := List.append_inj' (split.symm.trans pieces) rfl
    cases same
    rw [stripped]
    rfl
  case unfailing =>
    intro error kept
    rw [stripped] at kept
    cases List.mem_singleton.mp kept
  case scheme | authority | query => rw [stripped]; rfl
  all_goals rw [stripped]

/-- Whatever a request to a URI is, stripping changes no more than its path, and never fails. -/
theorem stripsPrefix (valid : request.uri.Valid) : StripsPrefix request := by
  by_cases web : OfGrpcWeb request.headers
  · rcases Nat.lt_or_ge 2 (segments request.uri.path).length with many | few
    · obtain ⟨leading, service, method, split, nested⟩ := exists_leading many
      exact stripsPrefix_of_leading valid web split nested
    · exact stripsPrefix_of_kept (stripResourcePrefix_of_few few) fun _ => few
  · exact stripsPrefix_of_kept (stripResourcePrefix_of_plain web) (absurd · web)

/-- Slashes may be doubled, stand at the end of the path, or be in the query. -/
theorem stripsPrefix_nested :
    ∃ request : Request (List UInt8),
      Uri.parse "http://example.com/web//api/pkg.Svc/Method/?next=/a/b?c" = some request.uri ∧
        StripsPrefix request ∧
          (stripResourcePrefix request).1.uri.path = "/pkg.Svc/Method".toList := by
  have uri : Uri.parse "http://example.com/web//api/pkg.Svc/Method/?next=/a/b?c" =
      some ⟨some "http".toList, some "example.com".toList,
        some ⟨"/web//api/pkg.Svc/Method/".toList, some "next=/a/b?c".toList⟩⟩ := by decide
  refine ⟨⟨"POST", _, .http1, ⟨[("content-type", "application/grpc-web+proto")]⟩, [0]⟩, uri,
    stripsPrefix (Uri.valid_of_parse uri), ?_⟩
  decide

end Requests

end RpcTransport.Bridge
