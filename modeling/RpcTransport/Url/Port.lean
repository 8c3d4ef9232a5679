import RpcTransport.Address.Ip
import RpcTransport.Url.Domain

/-! # The port of a URL

A URL is read as browsers read it: blanks around it and line breaks inside are dropped,
the schemes that browsers know take any number of slashes and backslashes, and a host may
follow user information. Only the port is kept, and only if it is written out and is not
the one the scheme implies.
-/

namespace RpcTransport.Url

/-- Drop controls and blanks around a URL, tabs and line breaks also inside it. -/
def cleanUrl (text : List Char) : List Char :=
  let isEdge (c : Char) : Bool := c.toNat ≤ 0x20
  let trimmed := ((text.dropWhile isEdge).reverse.dropWhile isEdge).reverse
  trimmed.filter fun c => c != '\t' && c != '\n' && c != '\r'

def defaultPort? (scheme : List Char) : Option Nat :=
  match String.ofList scheme with
  | "http" | "ws" => some 80
  | "https" | "wss" => some 443
  | "ftp" => some 21
  | _ => none

def splitScheme? (text : List Char) : Option (List Char × List Char) :=
  match splitFirst? ':' text with
  | some (c :: scheme, rest) =>
    if c.isAlpha && scheme.all fun c => c.isAlphanum || c == '+' || c == '-' || c == '.' then
      some ((c :: scheme).map Char.toLower, rest)
    else none
  | _ => none

def authorityOf (special : Bool) (text : List Char) : List Char :=
  text.takeWhile fun c => !(c == '/' || c == '?' || c == '#' || (special && c == '\\'))

/-- The host and port behind the user information; `none` if only that is there. -/
def dropUser? (authority : List Char) : Option (List Char) :=
  match splitLast? '@' authority with
  | some (_, []) => none
  | some (_, rest) => some rest
  | none => some authority

/-- The host of an authority and what follows it; colons in brackets belong to the host. -/
def splitHost : Bool → List Char → List Char × List Char
  | _, [] => ([], [])
  | inside, c :: rest =>
    if c = ':' ∧ !inside then ([], c :: rest)
    else
      let inside := if c = '[' then true else if c = ']' then false else inside
      let (host, rest) := splitHost inside rest
      (c :: host, rest)

def isForbiddenOpaque (c : Char) : Bool :=
  c ∈ ['\x00', '\t', '\n', '\r', ' ', '#', '/', ':', '<', '>', '?', '@', '[', '\\', ']', '^', '|']

def isHost (special : Bool) (host : List Char) : Bool :=
  match host with
  | '[' :: rest =>
    match rest.reverse with
    | ']' :: inner => (Ipv6.read? inner.reverse).isSome
    | _ => false
  | host => if special then isDomain host else host ≠ [] && !host.any isForbiddenOpaque

/-- The number written behind the colon of a host: digits up to the end of the authority,
    or up to a backslash. -/
def writtenPort? (text : List Char) : Option Nat :=
  Decimal.readBelow? 65536 (text.takeWhile (· != '\\'))

def authorityPort? (scheme : List Char) (authority : List Char) : Option Nat :=
  let implied := defaultPort? scheme
  match dropUser? authority with
  | none => none
  | some rest =>
    match splitHost false rest with
    | (host, ':' :: digits) =>
      if isHost implied.isSome host then (writtenPort? digits).filter (some · ≠ implied) else none
    | _ => none

/-- The port that a URL writes out and that its scheme does not imply. -/
def port? (text : List Char) : Option Nat :=
  match splitScheme? (cleanUrl text) with
  | none => none
  | some (scheme, rest) =>
    if String.ofList scheme = "file" then none
    else if (defaultPort? scheme).isSome then
      let rest := rest.dropWhile fun c => c == '/' || c == '\\'
      authorityPort? scheme (authorityOf true rest)
    else
      match rest with
      | '/' :: '/' :: rest => authorityPort? scheme (authorityOf false rest)
      | _ => none

end RpcTransport.Url
