import RpcTransport.Text.CodePoint
import RpcTransport.Text.Decimal

/-! # Words of TOML

Blanks, line ends and comments, the four kinds of string, and keys. A line ends with a
line feed, with or without a carriage return before it; other controls stand nowhere.
-/

namespace RpcTransport.Toml

def isSpace (c : Char) : Bool :=
  c == ' ' || c == '\t'

def skipSpace (text : List Char) : List Char :=
  text.dropWhile isSpace

def skipComment : List Char → List Char
  | '#' :: rest => rest.dropWhile isPlain
  | text => text

def newline? : List Char → Option (List Char)
  | '\n' :: rest => some rest
  | '\r' :: '\n' :: rest => some rest
  | _ => none

/-- What follows on the next line; only blanks and a comment may be left of this one. -/
def endLine? (text : List Char) : Option (List Char) :=
  match skipComment (skipSpace text) with
  | [] => some []
  | rest => newline? rest

/-- Drop blanks, line ends and comments. `fuel` bounds the comments. -/
def skipLines : Nat → List Char → List Char
  | 0, text => text
  | fuel + 1, text =>
    match text.dropWhile (fun c => isSpace c || c == '\n') with
    | '\r' :: '\n' :: rest => skipLines fuel rest
    | '#' :: rest => skipLines fuel (skipComment ('#' :: rest))
    | rest => rest

def shortEscape? : Char → Option Char
  | 'b' => some '\x08'
  | 't' => some '\t'
  | 'n' => some '\n'
  | 'f' => some '\x0c'
  | 'r' => some '\r'
  | '"' => some '"'
  | '\\' => some '\\'
  | _ => none

inductive StringState where
  /-- Between characters; behind a folded line break, the blanks and line breaks that
      follow it are still to be skipped. -/
  | plain (folded : Bool)
  /-- Behind a backslash. -/
  | escaped
  | number (left value : Nat)
  /-- Between a backslash and the line break that it folds. -/
  | folding
  deriving Repr, DecidableEq

/-- The rest of a string with escapes, behind its opening quotes. `read` holds the
    characters so far, newest first. Only a string over several lines may hold line ends
    and single quotes; up to two quotes before its closing ones belong to it. -/
def readEscaped (lines : Bool) (state : StringState) (read : List Char) :
    List Char → Option (String × List Char)
  | [] => none
  | c :: rest =>
    match state with
    | .escaped =>
      if c = 'u' then readEscaped lines (.number 4 0) read rest
      else if c = 'U' then readEscaped lines (.number 8 0) read rest
      else
        match shortEscape? c with
        | some character => readEscaped lines (.plain false) (character :: read) rest
        | none =>
          if !lines then none
          else if isSpace c || (c == '\r' && rest.head? == some '\n') then
            readEscaped lines .folding read rest
          else if c = '\n' then readEscaped lines (.plain true) read rest
          else none
    | .folding =>
      if isSpace c || (c == '\r' && rest.head? == some '\n') then
        readEscaped lines .folding read rest
      else if c = '\n' then readEscaped lines (.plain true) read rest
      else none
    | .number left value =>
      match Decimal.hexDigit? c with
      | none => none
      | some d =>
        let value := value * 16 + d
        if 1 < left then readEscaped lines (.number (left - 1) value) read rest
        else
          match scalar? value with
          | some character => readEscaped lines (.plain false) (character :: read) rest
          | none => none
    | .plain folded =>
      if folded && (isSpace c || c == '\n' || (c == '\r' && rest.head? == some '\n')) then
        readEscaped lines (.plain true) read rest
      else if c = '\\' then readEscaped lines .escaped read rest
      else if c = '"' then
        if !lines then some (String.ofList read.reverse, rest)
        else
          match rest with
          | '"' :: '"' :: '"' :: '"' :: rest =>
            some (String.ofList ('"' :: '"' :: read).reverse, rest)
          | '"' :: '"' :: '"' :: rest => some (String.ofList ('"' :: read).reverse, rest)
          | '"' :: '"' :: rest => some (String.ofList read.reverse, rest)
          | rest => readEscaped lines (.plain false) ('"' :: read) rest
      else if c = '\n' then
        if lines then readEscaped lines (.plain false) ('\n' :: read) rest else none
      else if c = '\r' then
        if lines && rest.head? == some '\n' then readEscaped lines (.plain false) read rest
        else none
      else if isPlain c then readEscaped lines (.plain false) (c :: read) rest
      else none

def readLiteralLines (read : List Char) : List Char → Option (String × List Char)
  | [] => none
  | '\'' :: rest =>
    match rest with
    | '\'' :: '\'' :: '\'' :: '\'' :: rest =>
      some (String.ofList ('\'' :: '\'' :: read).reverse, rest)
    | '\'' :: '\'' :: '\'' :: rest => some (String.ofList ('\'' :: read).reverse, rest)
    | '\'' :: '\'' :: rest => some (String.ofList read.reverse, rest)
    | rest => readLiteralLines ('\'' :: read) rest
  | '\n' :: rest => readLiteralLines ('\n' :: read) rest
  | '\r' :: rest => if rest.head? == some '\n' then readLiteralLines read rest else none
  | c :: rest => if isPlain c then readLiteralLines (c :: read) rest else none

def readLiteral (text : List Char) : Option (String × List Char) :=
  match text.span fun c => isPlain c && c != '\'' with
  | (content, '\'' :: rest) => some (String.ofList content, rest)
  | _ => none

/-- A string of any kind. A line end right behind three opening quotes is dropped. -/
def readString? : List Char → Option (String × List Char)
  | '"' :: '"' :: '"' :: rest => readEscaped true (.plain false) [] ((newline? rest).getD rest)
  | '"' :: rest => readEscaped false (.plain false) [] rest
  | '\'' :: '\'' :: '\'' :: rest => readLiteralLines [] ((newline? rest).getD rest)
  | '\'' :: rest => readLiteral rest
  | _ => none

def isKeyChar (c : Char) : Bool :=
  c.isAlphanum || c == '_' || c == '-'

def readKeyPart? : List Char → Option (String × List Char)
  | '"' :: rest => readEscaped false (.plain false) [] rest
  | '\'' :: rest => readLiteral rest
  | text =>
    match text.span isKeyChar with
    | ([], _) => none
    | (key, rest) => some (String.ofList key, rest)

/-- How deep tables and arrays may nest, and how many parts a key may have. -/
def maxDepth : Nat := 79

def readKey? : Nat → List Char → Option (List String × List Char)
  | 0, _ => none
  | parts + 1, text =>
    match readKeyPart? (skipSpace text) with
    | none => none
    | some (part, rest) =>
      match skipSpace rest with
      | '.' :: rest => (readKey? parts rest).map fun (key, rest) => (part :: key, rest)
      | rest => some ([part], rest)

end RpcTransport.Toml
