/-! # Characters and their numbers

Which numbers are those of characters, and properties of characters that are kept as ranges of
their numbers.
-/

namespace RpcTransport

/-- There is none for surrogates and beyond the last character. -/
def scalar? (n : Nat) : Option Char :=
  if n.isValidChar then some (Char.ofNat n) else none

/-- The character lies in one of the ranges, both ends included. -/
def inRanges (ranges : List (Nat × Nat)) (c : Char) : Bool :=
  ranges.any fun range => range.1 ≤ c.toNat && c.toNat ≤ range.2

/-- A tab, or anything but an ASCII control. -/
def isPlain (c : Char) : Bool :=
  c == '\t' || (0x20 ≤ c.toNat && c.toNat != 0x7f)

end RpcTransport
