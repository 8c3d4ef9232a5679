/-! # Shortest decimal of a float

The fewest decimal digits that read back as the same binary64 float, and among those the
nearest to it. A positive finite float is `m * 2^q`; the reals that round to it form an
interval around it, whose ends belong to it exactly if `m` is even. On the grid of the
decimals with a given number of digits only the two neighbours of the float need a look:
if any point of the grid lies in the interval, one of them does.
-/

namespace RpcTransport.Shortest

/-- A positive decimal: `digits * 10^exponent`. -/
structure Decimal where
  digits : Nat
  exponent : Int
  deriving Repr, DecidableEq

/-- A positive rational with the interval that rounds to it, all over one denominator. -/
structure Interval where
  low : Nat
  value : Nat
  high : Nat
  denominator : Nat
  closed : Bool

def Interval.ofBits (bits : UInt64) : Interval :=
  let biased := (bits.toNat >>> 52) % 2048
  let fraction := bits.toNat % (1 <<< 52)
  let m := if biased = 0 then fraction else (1 <<< 52) + fraction
  let up := (max biased 1) - 1
  -- the float is `m * 2^(up - 1074)`; quarters of its last place keep the ends whole
  let scale := 1 <<< up
  let below := if fraction = 0 ∧ 1 < biased then 1 else 2
  { low := (4 * m - below) * scale
    value := 4 * m * scale
    high := (4 * m + 2) * scale
    denominator := 1 <<< 1076
    closed := m % 2 = 0 }

def digitCount (n : Nat) : Nat := (Nat.toDigits 10 n).length

/-- How often a ratio below one must be multiplied by ten to reach one. -/
def leadingZeros (fuel numerator denominator : Nat) : Nat :=
  match fuel with
  | 0 => 0
  | fuel + 1 =>
    if denominator ≤ numerator then 0 else leadingZeros fuel (numerator * 10) denominator + 1

def Interval.leading (i : Interval) : Int :=
  if i.denominator ≤ i.value then (digitCount (i.value / i.denominator) : Int) - 1
  else -(leadingZeros 400 i.value i.denominator : Int)

/-- The nearer of the two neighbours with the last digit at `10^k` that lie in the
    interval; of two equally near ones the even one. -/
def Interval.onGrid? (i : Interval) (k : Int) : Option Nat :=
  let factor := Nat.pow 10 (-k).toNat
  let unit := i.denominator * Nat.pow 10 k.toNat
  let low := i.low * factor
  let high := i.high * factor
  let value := i.value * factor
  let holds (n : Nat) : Bool :=
    if i.closed then low ≤ n * unit && n * unit ≤ high else low < n * unit && n * unit < high
  let below := value / unit
  let above := below + 1
  match holds below && below != 0, holds above with
  | true, true =>
    let down := value - below * unit
    let up := above * unit - value
    if down < up then some below
    else if up < down then some above
    else if below % 2 = 0 then some below else some above
  | true, false => some below
  | false, true => some above
  | false, false => none

/-- The first grid, from coarse to fine, with a point in the interval. -/
def Interval.search (i : Interval) (k : Int) : Nat → Decimal
  | 0 => ⟨i.value / i.denominator, 0⟩
  | fuel + 1 =>
    match i.onGrid? k with
    | some digits => ⟨digits, k⟩
    | none => i.search (k - 1) fuel

def Decimal.normalize (d : Decimal) : Nat → Decimal
  | 0 => d
  | fuel + 1 =>
    if d.digits ≠ 0 ∧ d.digits % 10 = 0 then
      Decimal.normalize ⟨d.digits / 10, d.exponent + 1⟩ fuel
    else d

def ofBits (bits : UInt64) : Decimal :=
  let i := Interval.ofBits bits
  (i.search i.leading 18).normalize 20

example : ofBits 0x3FF8000000000000 = ⟨15, -1⟩ := by decide +kernel
example : ofBits 0x3FD3333333333334 = ⟨30000000000000004, -17⟩ := by decide +kernel
example : ofBits 0x0000000000000001 = ⟨5, -324⟩ := by decide +kernel
example : ofBits 0x4059000000000000 = ⟨1, 2⟩ := by decide +kernel

end RpcTransport.Shortest
