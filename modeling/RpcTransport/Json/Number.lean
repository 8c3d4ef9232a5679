import RpcTransport.Json.Value
import RpcTransport.Text.Decimal

/-! # JSON numbers

The integers that fit 64 bits are exact. Every other number becomes a float from a
significand of at most 64 bits and a power of ten: digits that no longer fit the
significand are dropped, and the scaling is one multiplication or division by a power
of ten up to `10^308`, so the last bit may differ from the nearest float.
-/

namespace RpcTransport.Json

/-- The leading digits of a number that fit 64 bits, and the power of ten they lack. -/
structure Significand where
  value : Nat
  exponent : Int
  full : Bool

namespace Significand

/-- Another digit before the point. A digit that no longer fits only raises the exponent. -/
def wholeDigit (s : Significand) (d : Nat) : Significand :=
  if !s.full && s.value * 10 + d < UInt64.size then { s with value := s.value * 10 + d }
  else { s with exponent := s.exponent + 1, full := true }

/-- Another digit behind the point. A digit that no longer fits is dropped with all later
    ones. -/
def fractionDigit (s : Significand) (d : Nat) : Significand :=
  if !s.full && s.value * 10 + d < UInt64.size then
    { s with value := s.value * 10 + d, exponent := s.exponent - 1 }
  else { s with full := true }

end Significand

def powerOfTen (n : Nat) : Float :=
  Float.ofScientific 1 false n

/-- Divide by `10^n`, by at most `10^308` at a time; nothing changes once zero is reached. -/
def scaleDown (x : Float) (n : Nat) : Float :=
  if n ≤ 308 then x / powerOfTen n
  else if x == 0 then x
  else scaleDown (x / powerOfTen 308) (n - 308)
termination_by n

/-- Multiply by `10^n`; `none` when the result is no finite float. -/
def scaleUp (x : Float) (n : Nat) : Option Float :=
  if n ≤ 308 then
    let y := x * powerOfTen n
    if y.isInf then none else some y
  else if x == 0 then some x
  else none

def scaled (value : Nat) (exponent : Int) : Option Float :=
  let x := (UInt64.ofNat value).toFloat
  if 0 ≤ exponent then scaleUp x exponent.toNat else some (scaleDown x (-exponent).toNat)

/-- The largest exponent that is read; larger ones count as infinite. -/
def exponentBound : Nat := 1 <<< 31

def withExponent (s : Significand) (negative : Bool) (digits : List Nat) : Option Float :=
  let written := Decimal.readBase 10 digits
  if written < exponentBound then
    scaled s.value (if negative then s.exponent - written else s.exponent + written)
  else if s.value != 0 && !negative then none
  else some 0

def spanDigits (text : List Char) : List Nat × List Char :=
  let split := Decimal.spanWhile Char.isDigit text
  (split.1.map fun c => c.toNat - '0'.toNat, split.2)

def readExponent (s : Significand) : List Char → Option (Float × List Char)
  | c :: rest =>
    if c = 'e' ∨ c = 'E' then
      let (negative, rest) := match rest with
        | '-' :: rest => (true, rest)
        | '+' :: rest => (false, rest)
        | rest => (false, rest)
      match spanDigits rest with
      | ([], _) => none
      | (digits, rest) => (withExponent s negative digits).map (·, rest)
    else (scaled s.value s.exponent).map (·, c :: rest)
  | [] => (scaled s.value s.exponent).map (·, [])

/-- An integer if it fits 64 bits, signed or unsigned; minus zero is a float. -/
def integerValue (negative : Bool) (value : Nat) : Value :=
  if !negative then .integer value
  else if value = 0 ∨ 1 <<< 63 < value then .float (-(UInt64.ofNat value).toFloat)
  else .integer (-(value : Int))

/-- The digits before the point: a single zero, or digits that do not start with zero. -/
def readWhole (text : List Char) : Option (Significand × List Char) :=
  match spanDigits text with
  | ([], _) => none
  | (0 :: _ :: _, _) => none
  | (digits, rest) => some (digits.foldl .wholeDigit ⟨0, 0, false⟩, rest)

def readUnsigned (negative : Bool) (text : List Char) : Option (Value × List Char) := do
  let signed (x : Float) : Value := .float (if negative then -x else x)
  let (whole, rest) ← readWhole text
  match rest with
  | '.' :: rest =>
    match spanDigits rest with
    | ([], _) => none
    | (digits, rest) =>
      let (x, rest) ← readExponent (digits.foldl .fractionDigit { whole with full := false }) rest
      return (signed x, rest)
  | c :: _ =>
    if whole.full ∨ c = 'e' ∨ c = 'E' then
      let (x, rest) ← readExponent whole rest
      return (signed x, rest)
    else return (integerValue negative whole.value, rest)
  | [] =>
    if whole.full then return (signed (← scaled whole.value whole.exponent), [])
    else return (integerValue negative whole.value, [])

def readNumber : List Char → Option (Value × List Char)
  | '-' :: rest => readUnsigned true rest
  | text => readUnsigned false text

end RpcTransport.Json
