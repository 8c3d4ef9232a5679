import RpcTransport.Json.Value

/-! # Tables of TOML

A table grows while its document is read, and how it came to be decides what may still be
added: a table that a header or braces wrote down is closed to dotted keys, a table that
only lies on the way to another one may be written down later, once.
-/

namespace RpcTransport.Toml

open Json (Value)

inductive TableKind where
  /-- A header named it. -/
  | written
  /-- A header named a table inside it. -/
  | implied
  /-- A dotted key led through it. -/
  | dotted
  deriving Repr, DecidableEq

inductive Node where
  | value (value : Value)
  | table (kind : TableKind) (entries : List (String × Node))
  /-- The tables that headers in double brackets wrote down, oldest first. -/
  | tables (items : List (List (String × Node)))

abbrev Entries := List (String × Node)

namespace Entries

def put (entries : Entries) (key : String) (node : Node) : Entries :=
  match entries with
  | [] => [(key, node)]
  | entry :: rest => if entry.1 = key then (key, node) :: rest else entry :: put rest key node

/-- Change the table that a path leads to. Tables that are missing on the way are made with
    the kind `made`; a list of tables is entered at its last one. A path of a dotted key
    enters no table that was written down. -/
def modifyAt (made : TableKind) (change : TableKind → Entries → Option Entries) :
    List String → TableKind → Entries → Option Entries
  | [], kind, entries => change kind entries
  | key :: path, _, entries =>
    match entries.lookup key with
    | none =>
      (modifyAt made change path made []).map fun inner => entries.put key (.table made inner)
    | some (.value _) => none
    | some (.table kind inner) =>
      if made = .dotted ∧ kind = .written then none
      else (modifyAt made change path kind inner).map fun inner =>
        entries.put key (.table kind inner)
    | some (.tables items) =>
      (modifyAt made change path .written (items.getLastD [])).map fun inner =>
        entries.put key (.tables (items.dropLast ++ [inner]))

/-- Add a value under the last part of a key. A dotted key adds only to tables that dotted
    keys made, and no key is given twice. -/
def addValue (key : String) (path : List String) (value : Value) (kind : TableKind)
    (entries : Entries) : Option Entries :=
  modifyAt .dotted
    (fun kind entries =>
      if (kind = .dotted ↔ path = []) ∨ (entries.lookup key).isSome then none
      else some (entries ++ [(key, .value value)]))
    path kind entries

/-- Write down a table: a new one, or one that so far was only implied. -/
def addTable (key : String) (entries : Entries) : Option Entries :=
  match entries.lookup key with
  | none => some (entries.put key (.table .written []))
  | some (.table .implied inner) => some (entries.put key (.table .written inner))
  | some _ => none

def addItem (key : String) (entries : Entries) : Option Entries :=
  match entries.lookup key with
  | none => some (entries.put key (.tables [[]]))
  | some (.tables items) => some (entries.put key (.tables (items ++ [[]])))
  | some _ => none

end Entries

mutual

def Node.toValue : Node → Value
  | .value value => value
  | .table _ entries => .object (entryValues entries)
  | .tables items => .array (itemValues items)

def entryValues : List (String × Node) → List (String × Value)
  | [] => []
  | (key, node) :: rest => (key, node.toValue) :: entryValues rest

def itemValues : List (List (String × Node)) → List Value
  | [] => []
  | entries :: rest => .object (entryValues entries) :: itemValues rest

end

end RpcTransport.Toml
