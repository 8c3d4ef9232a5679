import RpcTransport.Toml.Scalar
import RpcTransport.Toml.Table

/-! # Reading TOML

A document of TOML 1.0 becomes one object. Values nest less than eighty deep, and a key
has fewer than eighty parts.
-/

namespace RpcTransport.Toml

open Json (Value)

mutual

/-- The value at the start of a text. `depth` bounds the nesting from here on, and `fuel`
    the steps. -/
def readValue : Nat → Nat → List Char → Option (Value × List Char)
  | 0, _, _ => none
  | fuel + 1, depth, text =>
    match text with
    | '"' :: _ => (readString? text).map fun (text, rest) => (.string text, rest)
    | '\'' :: _ => (readString? text).map fun (text, rest) => (.string text, rest)
    | '[' :: rest =>
      match depth with
      | 0 => none
      | depth + 1 => readItems fuel depth [] rest
    | '\x7b' :: rest =>
      match depth, skipSpace rest with
      | 0, _ => none
      | _ + 1, '\x7d' :: rest => some (.object [], rest)
      | depth + 1, rest => readPairs fuel depth [] rest
    | 't' :: 'r' :: 'u' :: 'e' :: rest => some (.bool true, rest)
    | 'f' :: 'a' :: 'l' :: 's' :: 'e' :: rest => some (.bool false, rest)
    | text => readNumeric? text

/-- The items of an array from here on, behind those already read. A comma may follow the
    last one. -/
def readItems : Nat → Nat → List Value → List Char → Option (Value × List Char)
  | 0, _, _, _ => none
  | fuel + 1, depth, items, text =>
    match skipLines fuel text with
    | ']' :: rest => some (.array items.reverse, rest)
    | text =>
      match readValue fuel depth text with
      | none => none
      | some (item, rest) =>
        match skipLines fuel rest with
        | ',' :: rest => readItems fuel depth (item :: items) rest
        | ']' :: rest => some (.array (item :: items).reverse, rest)
        | _ => none

def readPairs : Nat → Nat → Entries → List Char → Option (Value × List Char)
  | 0, _, _, _ => none
  | fuel + 1, depth, entries, text =>
    match readKey? maxDepth text with
    | some (key, '=' :: rest) =>
      match readValue fuel depth (skipSpace rest) with
      | none => none
      | some (value, rest) =>
        match entries.addValue (key.getLastD "") key.dropLast value .written with
        | none => none
        | some entries =>
          match skipSpace rest with
          | ',' :: rest => readPairs fuel depth entries rest
          | '\x7d' :: rest => some (.object (entryValues entries), rest)
          | _ => none
    | _ => none

end

/-- What has been read of a document: its entries, and the table that the last header
    named. -/
structure Document where
  entries : Entries := []
  header : List String := []

namespace Document

def addValue (document : Document) (key : List String) (value : Value) : Option Document :=
  (Entries.modifyAt .implied
    (fun kind entries => entries.addValue (key.getLastD "") key.dropLast value kind)
    document.header .written document.entries).map fun entries => { document with entries }

/-- Start a table, or with `listed` one more table of a list. -/
def start (document : Document) (key : List String) (listed : Bool) : Option Document :=
  (Entries.modifyAt .implied
    (fun _ entries =>
      if listed then entries.addItem (key.getLastD "") else entries.addTable (key.getLastD ""))
    key.dropLast .written document.entries).map fun entries => ⟨entries, key⟩

def readHeader (document : Document) (listed : Bool) (text : List Char) :
    Option (Document × List Char) := do
  let (key, rest) ← readKey? maxDepth text
  let rest ← skip? ']' rest
  let rest ← if listed then skip? ']' rest else some rest
  return (← document.start key listed, ← endLine? rest)

def readPair (document : Document) (text : List Char) : Option (Document × List Char) := do
  let (key, rest) ← readKey? maxDepth text
  let rest ← skip? '=' rest
  let (value, rest) ← readValue (2 * rest.length + 2) maxDepth (skipSpace rest)
  return (← document.addValue key value, ← endLine? rest)

/-- Read line after line. Every step but the last takes a character, so `fuel` need not be
    more than their number. -/
def readAll : Nat → Document → List Char → Option Document
  | 0, _, _ => none
  | fuel + 1, document, text =>
    match skipSpace text with
    | [] => some document
    | '[' :: '[' :: rest => (document.readHeader true rest).bind fun (d, rest) => readAll fuel d rest
    | '[' :: rest => (document.readHeader false rest).bind fun (d, rest) => readAll fuel d rest
    | '#' :: rest => (endLine? ('#' :: rest)).bind fun rest => readAll fuel document rest
    | '\n' :: rest => readAll fuel document rest
    | '\r' :: '\n' :: rest => readAll fuel document rest
    | text => (document.readPair text).bind fun (d, rest) => readAll fuel d rest

end Document

def skipMark : List Char → List Char
  | '\uFEFF' :: rest => rest
  | text => text

def parse (text : String) : Option Value :=
  let chars := skipMark text.toList
  (Document.readAll (chars.length + 1) {} chars).map fun document =>
    .object (entryValues document.entries)

end RpcTransport.Toml
