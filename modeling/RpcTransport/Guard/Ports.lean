/-! # Allowed ports

A finite set of port texts, kept in ascending order. A port is compared as text: two
spellings of one number are two ports.
-/

namespace RpcTransport

structure AllowedPorts where
  /-- The ports, each once. -/
  toList : List String := []
  ascending : toList.Pairwise (· < ·) := by exact .nil
  deriving DecidableEq

namespace AllowedPorts

def insertInto (port : String) : List String → List String
  | [] => [port]
  | head :: rest =>
    if port < head then port :: head :: rest
    else if port = head then head :: rest
    else head :: insertInto port rest

theorem mem_insertInto {port other : String} {ports : List String} :
    other ∈ insertInto port ports ↔ other = port ∨ other ∈ ports := by
  induction ports with
  | nil => simp [insertInto]
  | cons head rest ih =>
    simp only [insertInto]
    split
    · simp
    · split
      · next h => subst h; simp
      · simp only [List.mem_cons, ih]
        constructor
        · rintro (h | h | h) <;> simp [h]
        · rintro (h | h | h) <;> simp [h]

theorem pairwise_insertInto {port : String} {ports : List String}
    (h : ports.Pairwise (· < ·)) : (insertInto port ports).Pairwise (· < ·) := by
  induction ports with
  | nil => simp [insertInto]
  | cons head rest ih =>
    obtain ⟨first, tail⟩ := List.pairwise_cons.1 h
    simp only [insertInto]
    split
    · next hlt =>
      refine List.pairwise_cons.2 ⟨fun other hmem => ?_, h⟩
      rcases List.mem_cons.1 hmem with hmem | hmem
      · exact hmem ▸ hlt
      · exact String.lt_trans hlt (first other hmem)
    · split
      · exact h
      · next hlt hne =>
        refine List.pairwise_cons.2 ⟨fun other hmem => ?_, ih tail⟩
        rcases mem_insertInto.1 hmem with hmem | hmem
        · subst hmem
          rcases Decidable.em (head < other) with hlt' | hlt'
          · exact hlt'
          · exact absurd (String.le_antisymm (String.not_lt.1 hlt') (String.not_lt.1 hlt)) hne
        · exact first other hmem

def insert (ports : AllowedPorts) (port : String) : AllowedPorts :=
  ⟨insertInto port ports.toList, pairwise_insertInto ports.ascending⟩

def empty : AllowedPorts := {}

def ofList (ports : List String) : AllowedPorts :=
  ports.foldl insert empty

def contains (ports : AllowedPorts) (port : String) : Bool :=
  ports.toList.contains port

def size (ports : AllowedPorts) : Nat :=
  ports.toList.length

def isEmpty (ports : AllowedPorts) : Bool :=
  ports.toList.isEmpty

@[simp] theorem mem_insert {ports : AllowedPorts} {port other : String} :
    other ∈ (ports.insert port).toList ↔ other = port ∨ other ∈ ports.toList :=
  mem_insertInto

end AllowedPorts

end RpcTransport
