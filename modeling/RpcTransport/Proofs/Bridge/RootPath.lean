import RpcTransport.Proofs.Bridge.PathPrefix

/-! # What a path leads to

Slashes only keep the segments of a path apart: how many there are, and where, makes no
difference to what is left of it. Below any path that has a segment, a method is found under
one path, and that path is left alone.
-/

namespace RpcTransport.Bridge

open Http (Request)

def Segment (text : List Char) : Prop :=
  text ≠ [] ∧ '/' ∉ text

/-- A path consists of segments in their order, and of slashes that keep them apart. -/
inductive Segmented : List Char → List (List Char) → Prop where
  | empty : Segmented [] []
  | slash {path : List Char} {pieces : List (List Char)} (behind : Segmented path pieces) :
      Segmented ('/' :: path) pieces
  | last {piece : List Char} (segment : Segment piece) : Segmented piece [piece]
  | segment {piece path : List Char} {pieces : List (List Char)} (segment : Segment piece)
      (behind : Segmented path pieces) : Segmented (piece ++ '/' :: path) (piece :: pieces)

section Pieces

variable {path piece : List Char} {pieces : List (List Char)}

theorem segments_append_cons (before behind : List Char) :
    segments (before ++ '/' :: behind) = segments before ++ segments behind := by
  rw [segments, splitAll_append_cons, List.filter_append]
  rfl

theorem segments_cons (path : List Char) : segments ('/' :: path) = segments path :=
  segments_append_cons [] path

theorem segments_of_segment (segment : Segment piece) : segments piece = [piece] := by
  rw [segments, splitAll_of_absent segment.2]
  exact List.filter_cons_of_pos (decide_eq_true segment.1)

theorem Segmented.segments_eq (segmented : Segmented path pieces) : segments path = pieces := by
  induction segmented with
  | empty => rfl
  | slash behind ih => rw [segments_cons, ih]
  | last segment => exact segments_of_segment segment
  | segment segment behind ih =>
      rw [segments_append_cons, segments_of_segment segment, ih, List.singleton_append]

theorem segmented_segments (path : List Char) : Segmented path (segments path) := by
  -- a path is read one piece at a time, and the pieces without text are the repeated slashes
  induction pieces : splitAll '/' path generalizing path with
  | nil => exact absurd pieces (splitAll_ne_nil path)
  | cons first others ih =>
      obtain ⟨absent, ⟨-, rfl⟩ | ⟨behind, rfl, rest⟩⟩ := splitAll_eq_cons pieces
      · by_cases nothing : path = []
        · rw [nothing]
          exact .empty
        · have segment : Segment path := ⟨nothing, absent⟩
          rw [segments_of_segment segment]
          exact .last segment
      · by_cases nothing : first = []
        · rw [nothing, List.nil_append, segments_cons]
          exact .slash (ih behind rest)
        · have segment : Segment first := ⟨nothing, absent⟩
          rw [segments_append_cons, segments_of_segment segment]
          exact .segment segment (ih behind rest)

theorem segmented_iff : Segmented path pieces ↔ segments path = pieces :=
  ⟨Segmented.segments_eq, fun same => same ▸ segmented_segments path⟩

end Pieces

section Placement

def slashes (count : Nat) : List Char := List.replicate count '/'

/-- The path of a method below another path, with any number of slashes more than it takes. -/
def pathBelow (path service method : List Char) (before between behind : Nat) : List Char :=
  path ++ '/' :: (slashes before ++ (service ++ '/' :: (slashes between ++
    (method ++ slashes behind))))

theorem segments_slashes_append (count : Nat) (path : List Char) :
    segments (slashes count ++ path) = segments path := by
  induction count with
  | zero => rfl
  | succ count ih => exact (segments_cons (slashes count ++ path)).trans ih

theorem segments_slashes (count : Nat) : segments (slashes count) = [] := by
  have alone := segments_slashes_append count []
  rwa [List.append_nil] at alone

theorem segments_append_slashes (path : List Char) (count : Nat) :
    segments (path ++ slashes count) = segments path := by
  cases count with
  | zero => exact congrArg segments (List.append_nil path)
  | succ count =>
      calc segments (path ++ slashes (count + 1))
          = segments path ++ segments (slashes count) :=
            segments_append_cons path (slashes count)
        _ = segments path := by rw [segments_slashes, List.append_nil]

theorem segments_pathBelow {service method : List Char} (first : Segment service)
    (second : Segment method) (path : List Char) (before between behind : Nat) :
    segments (pathBelow path service method before between behind) =
      segments path ++ [service, method] := by
  rw [pathBelow, segments_append_cons, segments_slashes_append, segments_append_cons,
    segments_slashes_append, segments_append_slashes, segments_of_segment first,
    segments_of_segment second, List.singleton_append]

end Placement

section Roots

variable {path root : List Char}

theorem rootResourcePath_eq_none_iff :
    rootResourcePath path = none ↔ (segments path).length ≤ 2 := by
  constructor
  · intro kept
    by_contra many
    obtain ⟨leading, service, method, split, nested⟩ := exists_leading (Nat.lt_of_not_le many)
    rw [rootResourcePath_of_leading split nested] at kept
    cases kept
  · exact rootResourcePath_of_few

theorem rootResourcePath_eq_some_iff : rootResourcePath path = some root ↔
    ∃ leading service method, segments path = leading ++ [service, method] ∧ leading ≠ [] ∧
      root = '/' :: service ++ '/' :: method := by
  constructor
  · intro stripped
    have many : 2 < (segments path).length := by
      by_contra few
      rw [rootResourcePath_of_few (Nat.le_of_not_lt few)] at stripped
      cases stripped
    obtain ⟨leading, service, method, split, nested⟩ := exists_leading many
    rw [rootResourcePath_of_leading split nested] at stripped
    exact ⟨leading, service, method, split, nested, (Option.some.inj stripped).symm⟩
  · rintro ⟨leading, service, method, split, nested, rfl⟩
    exact rootResourcePath_of_leading split nested

theorem length_segments_of_root (stripped : rootResourcePath path = some root) :
    (segments root).length = 2 := by
  obtain ⟨leading, service, method, split, -, rfl⟩ := rootResourcePath_eq_some_iff.mp stripped
  have first : service ≠ [] ∧ '/' ∉ service := plain_of_mem_segments (by rw [split]; simp)
  have second : method ≠ [] ∧ '/' ∉ method := plain_of_mem_segments (by rw [split]; simp)
  rw [segments_root first second]
  rfl

def withPath {β : Type} (request : Request β) (path : List Char) : Request β :=
  { request with uri := { request.uri with target := some ⟨path, request.uri.query⟩ } }

structure LeavesRoot (path : List Char) : Prop where
  /-- The path falls into segments in one way. -/
  segmented : ∃! pieces, Segmented path pieces
  /-- It is left alone just if there are at most two. -/
  kept : rootResourcePath path = none ↔ ∃ pieces, Segmented path pieces ∧ pieces.length ≤ 2
  /-- Of more segments the last two are left. -/
  stripped (root : List Char) : rootResourcePath path = some root ↔
    ∃ leading service method, Segmented path (leading ++ [service, method]) ∧ leading ≠ [] ∧
      root = '/' :: service ++ '/' :: method
  /-- What is left is left alone. -/
  again (root : List Char) : rootResourcePath path = some root → rootResourcePath root = none
  /-- Below a path with a segment there is one path for a method, whatever the slashes. -/
  below (leading : List (List Char)) (service method : List Char) (before between behind : Nat) :
    Segmented path leading → leading ≠ [] → Segment service → Segment method →
      rootResourcePath (pathBelow path service method before between behind) =
        some ('/' :: service ++ '/' :: method)
  /-- A gRPC-Web request for the path is handed on as one for what is left of it. -/
  reaches {β : Type} (request : Request β) (root : List Char) : request.uri.Valid →
    OfGrpcWeb request.headers → request.uri.path = path → rootResourcePath path = some root →
      (stripResourcePrefix request).1 = withPath request root

/-- A path is left with its last two segments. -/
theorem rootResourcePath_leavesRoot (path : List Char) : LeavesRoot path := by
  constructor
  case segmented =>
    exact ⟨segments path, segmented_segments path, fun pieces other => other.segments_eq.symm⟩
  case kept =>
    rw [rootResourcePath_eq_none_iff]
    constructor
    · exact fun few => ⟨segments path, segmented_segments path, few⟩
    · rintro ⟨pieces, segmented, few⟩
      rwa [segmented.segments_eq]
  case stripped =>
    intro root
    simp only [segmented_iff]
    exact rootResourcePath_eq_some_iff
  case again =>
    intro root stripped
    exact rootResourcePath_of_few (Nat.le_of_eq (length_segments_of_root stripped))
  case below =>
    intro leading service method before between behind segmented nested first second
    have split := segments_pathBelow first second path before between behind
    rw [segmented.segments_eq] at split
    exact rootResourcePath_of_leading split nested
  case reaches =>
    intro β request root valid web same stripped
    obtain ⟨leading, service, method, split, nested, rfl⟩ :=
      rootResourcePath_eq_some_iff.mp stripped
    rw [stripResourcePrefix_of_leading valid web (same ▸ split) nested]
    rfl

example : rootResourcePath "//api//pkg.Svc///Method//".toList =
    some "/pkg.Svc/Method".toList := by decide

end Roots

end RpcTransport.Bridge
