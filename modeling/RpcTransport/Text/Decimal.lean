/-! # Decimal numbers in text

Reading is over the ten ASCII digits only; writing is `toString` on `Nat`. A run of
digits may have leading zeros, so `readNat?` accepts more spellings of a number than
`toString` writes.
-/

namespace RpcTransport.Decimal

def digit? (c : Char) : Option Nat :=
  if c.isDigit then some (c.toNat - '0'.toNat) else none

def readOnto (value : Nat) : List Char → Option Nat
  | [] => some value
  | c :: rest =>
    match digit? c with
    | some d => readOnto (value * 10 + d) rest
    | none => none

def readNat? : List Char → Option Nat
  | [] => none
  | c :: rest => readOnto 0 (c :: rest)

/-- A number of at most `bound - 1`; `none` when the digits say more. -/
def readBelow? (bound : Nat) (text : List Char) : Option Nat :=
  (readNat? text).filter (· < bound)

/-- A TCP port number: digits, any number of leading zeros, at most 65535. -/
def readPort? (text : List Char) : Option UInt16 :=
  (readBelow? 65536 text).map UInt16.ofNat

def readSignedPort? : List Char → Option UInt16
  | '+' :: rest => readPort? rest
  | text => readPort? text

def spanWhile (keep : Char → Bool) (text : List Char) : List Char × List Char :=
  (text.takeWhile keep, text.dropWhile keep)

def hexDigit? (c : Char) : Option Nat :=
  if c.isDigit then some (c.toNat - '0'.toNat)
  else if 'a' ≤ c ∧ c ≤ 'f' then some (c.toNat - 'a'.toNat + 10)
  else if 'A' ≤ c ∧ c ≤ 'F' then some (c.toNat - 'A'.toNat + 10)
  else none

/-- A number written in the digits of `base`, most significant first. -/
def readBase (base : Nat) (digits : List Nat) : Nat :=
  digits.foldl (fun value d => value * base + d) 0

/-- A number with one more digit, to a base of at most 16. -/
def addDigit? (base value : Nat) (c : Char) : Option Nat :=
  (hexDigit? c).bind fun d => if d < base then some (value * base + d) else none

/-- A number to a base of at most 16; without any digits it is zero. -/
def readDigits? (base : Nat) (digits : List Char) : Option Nat :=
  digits.foldlM (addDigit? base) 0

/-- The base to which a number is written, and its digits: hexadecimal behind `0x`, octal behind
    any other `0`. -/
def splitBase : List Char → Nat × List Char
  | '0' :: 'x' :: digits => (16, digits)
  | '0' :: 'X' :: digits => (16, digits)
  | '0' :: d :: digits => (8, d :: digits)
  | digits => (10, digits)

def hexText (n : Nat) : String :=
  String.ofList (Nat.toDigits 16 n)

example : readPort? "00080".toList = some 80 := by decide
example : readPort? "65536".toList = none := by decide
example : readSignedPort? "+1".toList = some 1 := by decide
example : readSignedPort? "++1".toList = none := by decide

end RpcTransport.Decimal
