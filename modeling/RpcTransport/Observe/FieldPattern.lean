import RpcTransport.Text.Decimal
import RpcTransport.Text.Letter
import RpcTransport.Text.Split

/-! # Patterns for the values of fields

A filter may ask for a field with a given value: a truth value, a number, or a text that a
regular expression describes. No event is ever compared with such a value, so all that
matters of a pattern is whether it can be read. Patterns know characters only by their code
points: the sets of letters, figures and blanks, the edges of words, properties of characters
and the folding of case can be used only after `(?-u)`, which limits them to ASCII. Counted
repetition needs a closing brace, which ends the field, so there is none.
-/

namespace RpcTransport

namespace FieldPattern

structure Mode where
  /-- Characters are any code points, not only ASCII. -/
  wide : Bool := true
  foldsCase : Bool := false

inductive Escape where
  | point (c : Char)
  | set
  | position

def readPoint? (digits : List Char) : Option Char := do
  let values ← digits.mapM Decimal.hexDigit?
  scalar? (Decimal.readBase 16 values)

def readCode? (length : Nat) (text : List Char) : Option (Char × List Char) :=
  if text.length < length then none
  else (readPoint? (text.take length)).map fun c => (c, text.drop length)

/-- What stands behind a backslash, and what follows it. Every ASCII character that is
    neither letter nor digit stands for itself. -/
def readEscape? (mode : Mode) : List Char → Option (Escape × List Char)
  | [] => none
  | 'x' :: rest => do
    let (c, rest) ← readCode? 2 rest
    if !mode.wide && 0x80 ≤ c.toNat then none else some (.point c, rest)
  | 'u' :: rest => (readCode? 4 rest).map fun (c, rest) => (.point c, rest)
  | 'U' :: rest => (readCode? 8 rest).map fun (c, rest) => (.point c, rest)
  | c :: rest =>
    if c ∈ ['d', 's', 'w'] then if mode.wide then none else some (.set, rest)
    else if c ∈ ['b', 'B', '<', '>'] then
      if mode.wide then none else some (.position, rest)
    else if c ∈ ['A', 'z'] then some (.position, rest)
    else if c ∈ ['a', 'f', 't', 'n', 'r', 'v'] then some (.point '\t', rest)
    else if c.toNat < 0x80 && !c.isAlphanum then some (.point c, rest)
    else none

def readItem? (mode : Mode) (text : List Char) : Option (Escape × List Char) :=
  let item := match text with
    | [] => none
    | '\\' :: rest => readEscape? mode rest
    | c :: rest => some (.point c, rest)
  item.filter fun (item, _) =>
    match item with
    | .point c => mode.wide || c.toNat < 0x80
    | .set => true
    | .position => false

def skipRange? (mode : Mode) (text : List Char) : Option (List Char) :=
  match readItem? mode text with
  | none => none
  | some (first, '-' :: c :: rest) =>
    if c = ']' ∨ c = '-' then some ('-' :: c :: rest)
    else
      match first, readItem? mode (c :: rest) with
      | .point low, some (.point high, rest) => if low ≤ high then some rest else none
      | _, _ => none
  | some (_, rest) => some rest

def asciiClasses : List String :=
  ["alnum", "alpha", "ascii", "blank", "cntrl", "digit", "graph", "lower", "print", "punct",
   "space", "upper", "word", "xdigit"]

def skipAsciiClass? (mode : Mode) : List Char → Option (List Char)
  | ':' :: rest =>
    let (negated, rest) := match rest with
      | '^' :: rest => (true, rest)
      | rest => (false, rest)
    match splitFirst? ':' rest with
    | some (name, ']' :: rest) =>
      if asciiClasses.contains (String.ofList name) && (mode.wide || !negated) then some rest
      else none
    | _ => none
  | _ => none

/-- What follows the beginning of a class, behind its bracket: a caret for the complement,
    and a hyphen or a closing bracket that stands for itself. -/
def skipClassStart? (mode : Mode) (text : List Char) : Option (List Char) :=
  let (negated, text) := match text with
    | '^' :: rest => (true, rest)
    | rest => (false, rest)
  if negated && !mode.wide then none
  else
    match text with
    | ']' :: rest => some rest
    | text => some (text.dropWhile (· == '-'))

def skipClass? (mode : Mode) (depth : Nat) (text : List Char) : Option (List Char) :=
  let further (depth : Nat) (rest : Option (List Char)) : Option (List Char) :=
    match rest with
    | some rest => if rest.length < text.length then skipClass? mode depth rest else none
    | none => none
  match text with
  | [] => none
  | ']' :: rest => if depth = 0 then some rest else further (depth - 1) (some rest)
  | '[' :: rest =>
    match skipAsciiClass? mode rest with
    | some rest => further depth (some rest)
    | none => further (depth + 1) (skipClassStart? mode rest)
  | c :: d :: rest =>
    if c = d ∧ c ∈ ['&', '-', '~'] then further depth (some rest)
    else further depth (skipRange? mode (c :: d :: rest))
  | [_] => none
termination_by text.length

/-- Set one flag. Most flags change what a pattern matches, but not what can be read. -/
def Mode.set (mode : Mode) (flag : Char) (on : Bool) : Option Mode :=
  match flag with
  | 'u' => some { mode with wide := on }
  | 'i' => some { mode with foldsCase := on }
  | 'm' | 's' | 'U' | 'R' | 'x' => some mode
  | _ => none

/-- Set flags as they are written: those behind a hyphen are cleared. No flag occurs twice,
    and the hyphen is not the last. -/
def Mode.setAll? (mode : Mode) (flags : List Char) : Option Mode :=
  let (on, off) := match splitFirst? '-' flags with
    | some (on, off) => (on, some off)
    | none => (flags, none)
  if off = some [] || !decide (on ++ off.getD []).Nodup then none
  else do
    let mode ← on.foldlM (Mode.set · · true) mode
    (off.getD []).foldlM (Mode.set · · false) mode

def isGroupName : List Char → Bool
  | [] => false
  | c :: rest =>
    (c == '_' || isAlphabetic c) &&
      rest.all fun c => c ∈ ['_', '.', '[', ']'] || isAlphanumeric c

structure Reader where
  mode : Mode := {}
  /-- The modes to return to behind the groups that are open. -/
  outer : List Mode := []
  names : List (List Char) := []
  /-- Something stands in front that can be repeated. -/
  repeatable : Bool := false

namespace Reader

def behindItem (r : Reader) : Reader :=
  { r with repeatable := true }

def enter (r : Reader) (mode : Mode) : Reader :=
  { r with mode := mode, outer := r.mode :: r.outer, repeatable := false }

def enterNamed? (r : Reader) (text : List Char) : Option (Reader × List Char) :=
  match splitFirst? '>' text with
  | some (name, rest) =>
    if isGroupName name && !r.names.contains name then
      some ({ r.enter r.mode with names := name :: r.names }, rest)
    else none
  | none => none

/-- Read on behind `(?`: a group with a name, one with flags, or flags alone. There is no
    looking ahead or back. -/
def enterSpecial? (r : Reader) : List Char → Option (Reader × List Char)
  | 'P' :: '<' :: rest => r.enterNamed? rest
  | '<' :: rest => r.enterNamed? rest
  | text =>
    let flags := text.takeWhile fun c => c != ':' && c != ')'
    match text.drop flags.length with
    | ':' :: rest => (r.mode.setAll? flags).map fun mode => (r.enter mode, rest)
    | ')' :: rest =>
      if flags = [] then none
      else (r.mode.setAll? flags).map fun mode =>
        ({ r with mode := mode, repeatable := false }, rest)
    | _ => none

def acceptsPoint (r : Reader) (c : Char) : Bool :=
  if r.mode.foldsCase then !r.mode.wide && c.toNat < 0x80 else true

def step? (r : Reader) : List Char → Option (Reader × List Char)
  | [] => none
  | '(' :: '?' :: rest => r.enterSpecial? rest
  | '(' :: rest => some (r.enter r.mode, rest)
  | ')' :: rest =>
    match r.outer with
    | mode :: outer => some ({ r with mode := mode, outer := outer, repeatable := true }, rest)
    | [] => none
  | '|' :: rest => some ({ r with repeatable := false }, rest)
  | '[' :: rest =>
    if r.mode.wide && r.mode.foldsCase then none
    else ((skipClassStart? r.mode rest).bind (skipClass? r.mode 0)).map (r.behindItem, ·)
  | '\\' :: rest =>
    match readEscape? r.mode rest with
    | some (.point c, rest) => if r.acceptsPoint c then some (r.behindItem, rest) else none
    | some (_, rest) => some (r.behindItem, rest)
    | none => none
  | '\x7b' :: _ => none
  | c :: rest =>
    if c ∈ ['?', '*', '+'] then
      if r.repeatable then some (r, if rest.head? = some '?' then rest.drop 1 else rest) else none
    else if c = '.' then if r.mode.wide then some (r.behindItem, rest) else none
    else if c = '^' ∨ c = '$' ∨ r.acceptsPoint c then some (r.behindItem, rest)
    else none

def accepts (r : Reader) (text : List Char) : Bool :=
  if text = [] then r.outer.isEmpty
  else
    match r.step? text with
    | some (r, rest) => if rest.length < text.length then r.accepts rest else false
    | none => false
termination_by text.length

end Reader

def isExpression (text : List Char) : Bool :=
  Reader.accepts {} text

/-- Digits with at most one point among them, at least one digit. -/
def isMantissa (text : List Char) : Bool :=
  let (whole, rest) := Decimal.spanWhile Char.isDigit text
  match rest with
  | [] => whole ≠ []
  | '.' :: fraction => fraction.all Char.isDigit && (whole ≠ [] || fraction ≠ [])
  | _ => false

def dropSign : List Char → List Char
  | '+' :: rest => rest
  | '-' :: rest => rest
  | text => text

/-- The text is a number: an integer, a decimal fraction with or without an exponent, or one
    of the words for infinity and for no number. -/
def isNumber (text : List Char) : Bool :=
  let text := (dropSign text).map Char.toLower
  if ["inf", "infinity", "nan"].contains (String.ofList text) then true
  else
    match splitFirst? 'e' text with
    | some (mantissa, exponent) =>
      let digits := dropSign exponent
      isMantissa mantissa && digits ≠ [] && digits.all Char.isDigit
    | none => isMantissa text

end FieldPattern

def isFieldPattern (text : List Char) : Bool :=
  FieldPattern.isNumber text || FieldPattern.isExpression text

example : isFieldPattern "a(b|c)*?[^\\]x-z]".toList = true := by decide +kernel
example : isFieldPattern "a(b".toList = false := by decide +kernel
example : isFieldPattern "*".toList = false ∧ isFieldPattern "+5".toList = true := by
  decide +kernel
example : isFieldPattern "\\w".toList = false ∧ isFieldPattern "(?-u)\\w".toList = true := by
  decide +kernel

end RpcTransport
