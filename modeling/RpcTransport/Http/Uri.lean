import RpcTransport.Text.Split

/-! # Request URIs

The four forms of a request target: an absolute URI, a path with an optional query, an
authority alone, and `*`. The checks look at one character at a time, apart from colons
and brackets of the authority. A fragment is dropped, and an empty path is `/`.
-/

namespace RpcTransport.Http

def maxUriBytes : Nat := 65534

/-- A path that is never empty and what follows its question mark. -/
structure PathAndQuery where
  path : List Char
  query : Option (List Char)
  deriving Repr, DecidableEq

def isPathChar (c : Char) : Bool :=
  let n := c.toNat
  n == 0x21 || (0x24 ≤ n && n ≤ 0x3B) || n == 0x3D || (0x40 ≤ n && n ≤ 0x5F) ||
    (0x61 ≤ n && n ≤ 0x7A) || c == '|' || c == '~' || c == '"' || c == '\x7b' || c == '\x7d' ||
    0x80 ≤ n

def isQueryChar (c : Char) : Bool :=
  let n := c.toNat
  n == 0x21 || (0x24 ≤ n && n ≤ 0x3B) || n == 0x3D || (0x3F ≤ n && n ≤ 0x7E) || 0x80 ≤ n

namespace PathAndQuery

/-- A path and a query that may be a fragment's neighbour: what follows `#` is dropped. -/
def read? (text : List Char) : Option PathAndQuery :=
  let text := text.takeWhile (· != '#')
  let (path, query) := match splitFirst? '?' text with
    | some (path, query) => (path, some query)
    | none => (text, none)
  if path.all isPathChar && (query.getD []).all isQueryChar then
    some ⟨if path = [] then ['/'] else path, query⟩
  else none

def text (target : PathAndQuery) : List Char :=
  match target.query with
  | some query => target.path ++ '?' :: query
  | none => target.path

end PathAndQuery

def endsAuthority (c : Char) : Bool :=
  c == '/' || c == '?' || c == '#'

def isAuthorityChar (c : Char) : Bool :=
  c.isAlphanum || c ∈ ['!', '$', '&', '\'', '(', ')', '*', '+', ',', '-', '.', ':', ';', '=',
    '@', '[', ']', '_', '~']

/-- What has been seen of an authority that its next characters depend on. -/
structure AuthorityScan where
  /-- Colons since the last `@` or `]`. -/
  colons : Nat
  opened : Bool
  closed : Bool
  percent : Bool
  atEnd : Bool
  deriving Repr, DecidableEq

namespace AuthorityScan

def start : AuthorityScan := ⟨0, false, false, false, false⟩

def step (s : AuthorityScan) (c : Char) : Option AuthorityScan :=
  let s := { s with atEnd := false }
  if c = ':' then if 8 ≤ s.colons then none else some { s with colons := s.colons + 1 }
  else if c = '[' then if s.percent || s.opened then none else some { s with opened := true }
  else if c = ']' then
    if !s.opened || s.closed then none
    else some { s with closed := true, colons := 0, percent := false }
  else if c = '@' then some { s with colons := 0, percent := false, atEnd := true }
  else if c = '%' then some { s with percent := true }
  else if isAuthorityChar c then some s
  else none

def accepts (s : AuthorityScan) : Bool :=
  s.opened == s.closed && s.colons ≤ 1 && !s.atEnd && !s.percent

end AuthorityScan

/-- The text is a well-formed authority; no text at all is one too. -/
def isAuthority (text : List Char) : Bool :=
  match text.foldlM AuthorityScan.step AuthorityScan.start with
  | some s => s.accepts
  | none => false

structure Uri where
  scheme : Option (List Char)
  authority : Option (List Char)
  target : Option PathAndQuery
  deriving Repr, DecidableEq

namespace Uri

def isSchemeChar (c : Char) : Bool :=
  c.isAlphanum || c == '+' || c == '.' || c == '~' || c == '-'

/-- The longest scheme other than `http` and `https`. -/
def maxSchemeLength : Nat := 64

def dropStartCaseless? (word text : List Char) : Option (List Char) :=
  if (text.take word.length).map Char.toLower = word then some (text.drop word.length) else none

/-- The scheme that a text starts with and what follows `://`. The outer `none` is a
    scheme that is too long, the inner one no scheme at all. -/
def splitScheme (text : List Char) : Option (Option (List Char × List Char)) :=
  match dropStartCaseless? "http://".toList text, dropStartCaseless? "https://".toList text with
  | some rest, _ => some (some ("http".toList, rest))
  | none, some rest => some (some ("https".toList, rest))
  | none, none =>
    if text.length ≤ 3 then some none
    else
      let scheme := text.takeWhile isSchemeChar
      match text.drop scheme.length with
      | ':' :: '/' :: '/' :: rest =>
        if maxSchemeLength < scheme.length then none else some (some (scheme, rest))
      | _ => some none

def readFull? (text : List Char) : Option Uri :=
  match splitScheme text with
  | none => none
  | some none =>
    if text.any endsAuthority || !isAuthority text then none
    else some ⟨none, some text, none⟩
  | some (some (scheme, rest)) =>
    let authority := rest.takeWhile (!endsAuthority ·)
    if authority = [] || !isAuthority authority then none
    else (PathAndQuery.read? (rest.drop authority.length)).map fun target =>
      ⟨some scheme, some authority, some target⟩

def read? (text : List Char) : Option Uri :=
  if maxUriBytes < (String.ofList text).utf8ByteSize then none
  else
    match text with
    | [] => none
    | ['*'] => some ⟨none, none, some ⟨['*'], none⟩⟩
    | '/' :: _ => (PathAndQuery.read? text).map fun target => ⟨none, none, some target⟩
    | text => readFull? text

def parse (text : String) : Option Uri :=
  read? text.toList

/-- The path; empty only for an authority alone. -/
def path (uri : Uri) : List Char :=
  match uri.target with
  | some target => target.path
  | none => []

def query (uri : Uri) : Option (List Char) :=
  uri.target.bind (·.query)

def text (uri : Uri) : String :=
  String.ofList <|
    (match uri.scheme with
      | some scheme => scheme ++ "://".toList
      | none => []) ++
    uri.authority.getD [] ++
    (match uri.target with
      | some target => target.text
      | none => [])

end Uri

end RpcTransport.Http
