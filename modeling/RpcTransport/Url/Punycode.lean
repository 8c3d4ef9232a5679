import RpcTransport.Text.CodePoint
import RpcTransport.Text.Split

/-! # Punycode

Reading the ASCII form of a label: the basic characters, a hyphen, and the others as
differences in a number system whose digit thresholds adapt as it goes.
-/

namespace RpcTransport.Url.Punycode

/-- The value of a digit: letters count from 0, figures from 26. -/
def digit? (c : Char) : Option Nat :=
  if 'a' ≤ c ∧ c ≤ 'z' then some (c.toNat - 'a'.toNat)
  else if 'A' ≤ c ∧ c ≤ 'Z' then some (c.toNat - 'A'.toNat)
  else if c.isDigit then some (c.toNat - '0'.toNat + 26)
  else none

def threshold (k bias : Nat) : Nat :=
  if k ≤ bias then 1 else if bias + 26 ≤ k then 26 else k - bias

/-- Divide a difference by 35 until it is small, counting 36 for each division. -/
def reduce (delta k : Nat) : Nat × Nat :=
  if 455 < delta then reduce (delta / 35) (k + 36) else (delta, k)
termination_by delta
decreasing_by exact Nat.div_lt_self (by omega) (by omega)

def adapt (delta count : Nat) (isFirst : Bool) : Nat :=
  let delta := if isFirst then delta / 700 else delta / 2
  let (delta, k) := reduce (delta + delta / count) 0
  k + 36 * delta / (delta + 38)

def indexBound : Nat := UInt32.size

/-- The state between two characters: the output, the last code point, the index and the
    bias; and within a difference also its start, the weight and its position. -/
structure Reader where
  output : List Char
  point : Nat
  index : Nat
  bias : Nat
  start : Nat
  weight : Nat
  position : Nat

def Reader.place (r : Reader) : Option Reader := do
  let count := r.output.length + 1
  let point := r.point + r.index / count
  let index := r.index % count
  let c ← scalar? point
  return { output := r.output.take index ++ c :: r.output.drop index
           point := point
           index := index + 1
           bias := adapt (r.index - r.start) count (r.start = 0)
           start := index + 1
           weight := 1
           position := 36 }

def Reader.step (r : Reader) (c : Char) : Option Reader := do
  let d ← digit? c
  let index := r.index + d * r.weight
  if indexBound ≤ index then none
  else
    let t := threshold r.position r.bias
    if d < t then Reader.place { r with index := index }
    else
      let weight := r.weight * (36 - t)
      if indexBound ≤ weight then none
      else some { r with index := index, weight := weight, position := r.position + 36 }

/-- The basic characters and the digits of a label; a hyphen in front of all else divides
    nothing. -/
def splitBasic (text : List Char) : List Char × List Char :=
  match splitLast? '-' text with
  | none | some ([], _) => ([], text)
  | some (basic, digits) => (basic, digits)

def decode (text : List Char) : Option (List Char) :=
  let (basic, digits) := splitBasic text
  match digits.foldlM Reader.step ⟨basic, 128, 0, 72, 0, 1, 36⟩ with
  | some r => if r.position = 36 then some r.output else none
  | none => none

example : decode "bcher-kva".toList = some "bücher".toList := by decide +kernel
example : decode "wgv71a119e".toList = some "日本語".toList := by decide +kernel

end RpcTransport.Url.Punycode
