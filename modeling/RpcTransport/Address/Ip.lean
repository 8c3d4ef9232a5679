import RpcTransport.Text.Decimal
import RpcTransport.Text.Split

/-! # IP addresses in text

IPv4 is four decimal octets without leading zeros. IPv6 is eight groups of up to four
hexadecimal digits; one `::` stands for one or more zero groups, and the last two groups
may be written as an IPv4 address. Writing is canonical: lower case, no leading zeros, the
first of the longest runs of two or more zero groups as `::`.
-/

namespace RpcTransport

def allSome : List (Option α) → Option (List α)
  | [] => some []
  | none :: _ => none
  | some x :: rest => (allSome rest).map (x :: ·)

structure Ipv4 where
  first : UInt8
  second : UInt8
  third : UInt8
  fourth : UInt8
  deriving Repr, DecidableEq

namespace Ipv4

/-- One octet: one to three digits, no leading zero, at most 255. -/
def readOctet? (text : List Char) : Option UInt8 :=
  match text with
  | '0' :: _ :: _ => none
  | _ => (Decimal.readBelow? 256 text).map UInt8.ofNat

def read? (text : List Char) : Option Ipv4 :=
  match splitAll '.' text with
  | [a, b, c, d] => do
    return ⟨← readOctet? a, ← readOctet? b, ← readOctet? c, ← readOctet? d⟩
  | _ => none

def isUnspecified (ip : Ipv4) : Bool :=
  ip == ⟨0, 0, 0, 0⟩

def text (ip : Ipv4) : String :=
  s!"{ip.first.toNat}.{ip.second.toNat}.{ip.third.toNat}.{ip.fourth.toNat}"

end Ipv4

structure Ipv6 where
  groups : List UInt16
  length_groups : groups.length = 8
  deriving DecidableEq

namespace Ipv6

/-- One group: one to four hexadecimal digits. -/
def readGroup? (text : List Char) : Option UInt16 :=
  if text.length = 0 ∨ 4 < text.length then none
  else (allSome (text.map Decimal.hexDigit?)).map fun digits =>
    UInt16.ofNat (Decimal.readBase 16 digits)

def ofIpv4 (ip : Ipv4) : List UInt16 :=
  [UInt16.ofNat (ip.first.toNat * 256 + ip.second.toNat),
   UInt16.ofNat (ip.third.toNat * 256 + ip.fourth.toNat)]

/-- Groups between colons, of which the last piece may be an IPv4 address. -/
def readPieces? : List (List Char) → Option (List UInt16)
  | [] => some []
  | [last] =>
    match Ipv4.read? last with
    | some ip => some (ofIpv4 ip)
    | none => (readGroup? last).map fun group => [group]
  | piece :: rest => do return (← readGroup? piece) :: (← readPieces? rest)

def readGroups? (text : List Char) : Option (List UInt16) :=
  if text = [] then some [] else readPieces? (splitAll ':' text)

/-- Groups separated by colons, none of them written as an IPv4 address. -/
def readPlainGroups? (text : List Char) : Option (List UInt16) :=
  if text = [] then some [] else allSome ((splitAll ':' text).map readGroup?)

def readAll? (text : List Char) : Option (List UInt16) :=
  match splitWord? [':', ':'] text with
  | none => readGroups? text
  | some (head, tail) => do
    let front ← readPlainGroups? head
    let back ← readGroups? tail
    if front.length + back.length < 8 then
      return front ++ List.replicate (8 - (front.length + back.length)) 0 ++ back
    else none

def read? (text : List Char) : Option Ipv6 :=
  match readAll? text with
  | some groups => if h : groups.length = 8 then some ⟨groups, h⟩ else none
  | none => none

def zeroRun (groups : List UInt16) : Nat :=
  (groups.takeWhile (· == 0)).length

/-- Start and length of the first of the longest runs of zero groups, counting positions
    from `start`. -/
def longestZeros (start : Nat) : List UInt16 → Nat × Nat
  | [] => (start, 0)
  | group :: rest =>
    let here := zeroRun (group :: rest)
    let later := longestZeros (start + 1) rest
    if later.2 ≤ here then (start, here) else later

def groupsText (groups : List UInt16) : String :=
  String.intercalate ":" (groups.map fun group => Decimal.hexText group.toNat)

/-- The IPv4 address inside `::ffff:0:0/96`. -/
def mapped? (ip : Ipv6) : Option Ipv4 :=
  match ip.groups with
  | [0, 0, 0, 0, 0, 0xffff, high, low] =>
    some ⟨UInt8.ofNat (high.toNat / 256), UInt8.ofNat (high.toNat % 256),
      UInt8.ofNat (low.toNat / 256), UInt8.ofNat (low.toNat % 256)⟩
  | _ => none

def isUnspecified (ip : Ipv6) : Bool :=
  ip.groups.all (· == 0)

def isMulticast (ip : Ipv6) : Bool :=
  ip.groups.head?.any fun group => group &&& 0xff00 == 0xff00

def isLinkLocal (ip : Ipv6) : Bool :=
  ip.groups.head?.any fun group => group &&& 0xffc0 == 0xfe80

/-- The address means nothing without the interface it belongs to: it is link-local, or a
    group within one machine or one link. -/
def needsInterface (ip : Ipv6) : Bool :=
  ip.isLinkLocal || ip.groups.head?.any fun group =>
    group &&& 0xff0f == 0xff01 || group &&& 0xff0f == 0xff02

def text (ip : Ipv6) : String :=
  match ip.mapped? with
  | some v4 => "::ffff:" ++ v4.text
  | none =>
    let (start, length) := longestZeros 0 ip.groups
    if 1 < length then
      groupsText (ip.groups.take start) ++ "::" ++ groupsText (ip.groups.drop (start + length))
    else groupsText ip.groups

end Ipv6

end RpcTransport
