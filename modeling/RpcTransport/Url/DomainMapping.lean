import RpcTransport.Text.CodePoint
import RpcTransport.Text.Split
import RpcTransport.Url.DomainImages
import RpcTransport.Url.DomainTable

/-! # Mapping the characters of domain names

A domain name means the same in any case and in any compatibility form, so each of its
characters is mapped: to lower case, to what it stands for, or to nothing. Some characters
have no place in a domain name.
-/

namespace RpcTransport.Url

def isForbiddenAscii (c : Char) : Bool :=
  c.toNat ≤ 0x20 || c.toNat == 0x7f ||
    c ∈ ['%', '#', '/', ':', '<', '>', '?', '@', '[', '\\', ']', '^', '|']

/-- What a code point becomes that changes with its neighbours: to the next one, or along
    with a whole range. -/
def shiftedImage? (n : Nat) : Option Nat :=
  if alternatingRanges.any fun (first, last) => first ≤ n && n ≤ last && (n - first) % 2 == 0 then
    some (n + 1)
  else
    (shiftedRanges.find? fun (first, last, _) => first ≤ n && n ≤ last).map
      fun (first, _, image) => n - first + image

def ownImage? (n : Nat) : Option (List Char) :=
  match (imageBlocks.takeWhile fun (first, _) => first ≤ n).getLast? with
  | some (first, images) => (splitAll ' ' images.toList)[n - first]?
  | none => none

/-- What a character beyond ASCII becomes; `none` if it has no place in a domain name. -/
def mapWideChar? (c : Char) : Option (List Char) :=
  let n := c.toNat
  if inRanges droppedRanges c then some []
  else
    match shiftedImage? n with
    | some image => some [Char.ofNat image]
    | none =>
      match ownImage? n with
      | some image => some image
      | none => if inRanges forbiddenRanges c then none else some [c]

/-- What a character becomes; `none` if it has no place in a domain name. ASCII characters
    become lower case and are judged later, since a mark may still change them. -/
def mapDomainChar? (c : Char) : Option (List Char) :=
  if c.toNat < 0x80 then some [c.toLower] else mapWideChar? c

def isMapped (c : Char) : Bool :=
  if c.toNat < 0x80 then c.toLower == c && c != '.' && !isForbiddenAscii c
  else mapWideChar? c == some [c]

example : isForbiddenAscii '%' = true ∧ isForbiddenAscii '-' = false := by decide

end RpcTransport.Url
