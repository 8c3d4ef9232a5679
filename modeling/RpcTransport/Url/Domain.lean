import RpcTransport.Text.Decimal
import RpcTransport.Url.Label

/-! # Domain names in URLs

A host of a special scheme is percent-decoded and read as a domain name. A last label that is
a number makes it an IPv4 address.
-/

namespace RpcTransport.Url

/-- The value of `%41` and its like, one byte at a time. -/
def percentDecode : List UInt8 → List UInt8
  | percent :: high :: low :: rest =>
    if percent = 0x25 then
      match Decimal.hexDigit? (Char.ofNat high.toNat), Decimal.hexDigit? (Char.ofNat low.toNat) with
      | some h, some l => UInt8.ofNat (h * 16 + l) :: percentDecode rest
      | _, _ => percent :: percentDecode (high :: low :: rest)
    else percent :: percentDecode (high :: low :: rest)
  | byte :: rest => byte :: percentDecode rest
  | [] => []

/-- A host with its percent escapes decoded; `none` if the bytes are no UTF-8. -/
def decodeHost? (host : List Char) : Option (List Char) :=
  if '%' ∈ host then
    let bytes := percentDecode (String.ofList host).toUTF8.toList
    (String.fromUTF8? ⟨bytes.toArray⟩).map String.toList
  else some host

/-- The number that a label of an IPv4 address stands for, in any base. Behind `0x` there need
    be no digits. -/
def labelNumber? (label : List Char) : Option Nat :=
  let (base, digits) := Decimal.splitBase label
  if label = [] then none else Decimal.readDigits? base digits

def trimmedLabels (labels : List (List Char)) : List (List Char) :=
  if labels.getLast? = some [] then labels.dropLast else labels

def endsInNumber (labels : List (List Char)) : Bool :=
  match (trimmedLabels labels).getLast? with
  | some last => (last ≠ [] && last.all Char.isDigit) || (labelNumber? last).isSome
  | none => false

/-- The labels are an IPv4 address of at most four numbers, the last filling what the others
    leave. -/
def isIpv4Name (labels : List (List Char)) : Bool :=
  let labels := trimmedLabels labels
  labels.length ≤ 4 &&
    match labels.mapM labelNumber? with
    | some numbers =>
      numbers.dropLast.all (· ≤ 255) &&
        (match numbers.getLast? with
          | some last => last < Nat.pow 256 (5 - numbers.length)
          | none => false)
    | none => false

/-- The text is a host of a special scheme other than an address in brackets. -/
def isDomain (host : List Char) : Bool :=
  match (decodeHost? host).bind domainLabels? with
  | some labels => labels ≠ [[]] && (!endsInNumber labels || isIpv4Name labels)
  | none => false

end RpcTransport.Url
