import RpcTransport.Text.CodePoint

/-! # HTTP headers

Names are tokens and compare without regard to case; values are visible ASCII, blanks,
tabs and any bytes beyond ASCII. A header may occur more than once: the first counts.
-/

namespace RpcTransport.Http

/-- The character may stand in a token: a method or the name of a header. -/
def isTokenChar (c : Char) : Bool :=
  c.isAlphanum || c ∈ ['!', '#', '$', '%', '&', '\'', '*', '+', '-', '.', '^', '_', '\x60', '|', '~']

def isToken (text : String) : Bool :=
  !text.isEmpty && text.toList.all isTokenChar

def isValue (text : String) : Bool :=
  text.toList.all isPlain

/-- The character is a tab or visible ASCII, so that it can be read as text. -/
def isReadableChar (c : Char) : Bool :=
  c == '\t' || (0x20 ≤ c.toNat && c.toNat < 0x7f)

def isReadable (value : String) : Bool :=
  value.toList.all isReadableChar

def lowerName (name : String) : String :=
  String.ofList (name.toList.map Char.toLower)

/-- Headers in the order they were given, names in lower case. -/
structure Headers where
  entries : List (String × String)
  deriving Repr, DecidableEq

namespace Headers

/-- Headers from pairs of name and value; `none` if one of them is malformed. -/
def ofPairs? (pairs : List (String × String)) : Option Headers :=
  if pairs.all fun (name, value) => isToken name && isValue value then
    some ⟨pairs.map fun (name, value) => (lowerName name, value)⟩
  else none

def get? (headers : Headers) (name : String) : Option String :=
  headers.entries.lookup name

def text? (headers : Headers) (name : String) : Option String :=
  (headers.get? name).filter isReadable

def set (headers : Headers) (name value : String) : Headers :=
  ⟨(headers.entries.filter fun entry => entry.1 ≠ name) ++ [(name, value)]⟩

def erase (headers : Headers) (name : String) : Headers :=
  ⟨headers.entries.filter fun entry => entry.1 ≠ name⟩

def add (headers : Headers) (name value : String) : Headers :=
  ⟨headers.entries ++ [(name, value)]⟩

end Headers

end RpcTransport.Http
