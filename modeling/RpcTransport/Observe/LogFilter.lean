import RpcTransport.Observe.FieldPattern
import RpcTransport.Observe.Notice
import RpcTransport.Text.Blank
import RpcTransport.Text.Decimal
import RpcTransport.Text.Letter
import RpcTransport.Text.Split

/-! # Log filters

A filter is a list of directives such as `net=debug`, which let events through by where they
come from and how much they matter. For each event the most specific directive about it
counts, and of two that say the same about it the later one; an event that no directive is
about is held back.
-/

namespace RpcTransport

structure LogDirective where
  /-- How the source of an event has to begin; any source without one. -/
  source : Option String
  fields : List String
  /-- The directive is about what happens within spans, of which events know nothing. -/
  forSpans : Bool
  /-- The least level that passes; without one, nothing does. -/
  threshold : Option Level
  deriving Repr, DecidableEq

namespace LogDirective

/-- A threshold by its number: 0 holds everything back, 5 nothing. -/
def thresholdOfNumber? : Nat → Option (Option Level)
  | 0 => some none
  | 1 => some (some .error)
  | 2 => some (some .warn)
  | 3 => some (some .info)
  | 4 => some (some .debug)
  | 5 => some (some .trace)
  | _ => none

def readNumber? : List Char → Option Nat
  | '+' :: digits => Decimal.readNat? digits
  | digits => Decimal.readNat? digits

def readThreshold? (text : List Char) : Option (Option Level) :=
  match (readNumber? text).bind thresholdOfNumber? with
  | some threshold => some threshold
  | none =>
    match String.ofList (text.map Char.toLower) with
    | "off" => some none
    | "error" => some (some .error)
    | "warn" => some (some .warn)
    | "info" => some (some .info)
    | "debug" => some (some .debug)
    | "trace" => some (some .trace)
    | _ => none

def readBehindSign? (text : String) : Option (Option Level) :=
  if text = "" then some (some .trace) else readThreshold? text.toList

def isStart (c : Char) : Bool :=
  c == '-' || c == ':' || c == '_' || isAlphanumeric c

/-- What a directive is being read for; a part that is not complete has begun at a distance
    from the beginning of the text, in bytes. -/
inductive Place where
  | start
  | word (start : Nat)
  | span (start : Nat)
  | field (start : Nat)
  | behindField
  | behindSpan
  | threshold (start : Nat)

structure Draft where
  directive : LogDirective := ⟨none, [], false, some .trace⟩
  place : Place := .start
  length : Nat := 0

/-- A part of a text, given by its distances from the beginning in bytes; `none` if one of
    them lies within a character. -/
def part? (text : String) (start stop : Nat) : Option String :=
  String.fromUTF8? (text.toUTF8.extract start stop)

/-- The directive with a field, which may ask for a value. -/
def withField? (directive : LogDirective) (field : String) : Option LogDirective :=
  match splitAll '=' field.toList with
  | name :: value :: _ =>
    if isFieldPattern value then
      some { directive with fields := [String.ofList name], forSpans := true }
    else none
  | _ => if field = "" then none else some { directive with fields := [field] }

def Draft.goOn (draft : Draft) (directive : LogDirective) (place : Place) : Draft :=
  { draft with directive := directive, place := place }

def Draft.step? (text : String) (draft : Draft) (c : Char) : Option Draft := do
  let here := draft.length
  let behind := here + c.utf8Size
  let directive := draft.directive
  let next : Draft := { draft with length := behind }
  match draft.place with
  | .start =>
    if c = '[' then return next.goOn directive (.span behind)
    else if isStart c then return next.goOn directive (.word here)
    else none
  | .word start =>
    if c = '=' then
      return next.goOn { directive with source := ← part? text start here } (.threshold behind)
    else if c = '[' then
      return next.goOn { directive with source := ← part? text start here } (.span behind)
    else return next
  | .span start =>
    if c = ']' then return next.goOn { directive with forSpans := true } .behindSpan
    else if c = '\x7b' then
      let name ← part? text start here
      return next.goOn { directive with forSpans := name ≠ "" } (.field behind)
    else return next
  | .field start =>
    if c = '\x7d' then
      let field ← part? text start here
      return next.goOn (← directive.withField? field) .behindField
    else return next
  | .behindField => if c = ']' then return next.goOn directive .behindSpan else none
  | .behindSpan => if c = '=' then return next.goOn directive (.threshold behind) else none
  | .threshold _ => return next

def Draft.finish? (text : String) (draft : Draft) : Option LogDirective :=
  let directive := draft.directive
  match draft.place with
  | .word start => do
    let word ← part? text start text.utf8ByteSize
    match readThreshold? word.toList with
    | some threshold => return { directive with threshold := threshold }
    | none => return { directive with source := word }
  | .threshold start => do
    let threshold ← readBehindSign? (← part? text start text.utf8ByteSize)
    return { directive with threshold := threshold }
  | .behindSpan => some directive
  | _ => none

def trimmed (text : String) : List Char :=
  ((text.toList.dropWhile isBlank).reverse.dropWhile isBlank).reverse

/-- A directive: a threshold, a source, or a source with a threshold; behind the source may
    stand in brackets what the span or the event has to be. A source alone lets everything
    through. The parts are found without the blanks around the text, but counted from its
    beginning and up to its end, so blanks around a directive belong to its parts. -/
def read? (text : String) : Option LogDirective :=
  ((trimmed text).foldlM (Draft.step? text) {}).bind (Draft.finish? text)

def concerns (directive : LogDirective) (event : Event) : Bool :=
  !directive.forSpans &&
    (match directive.source with
      | some source => event.source.startsWith source
      | none => true) &&
    directive.fields.all fun field =>
      field == "message" || (event.fields.map (·.1)).contains field

/-- The length of the source; a directive for any source comes before all others. -/
def reach (directive : LogDirective) : Nat :=
  match directive.source with
  | some source => source.utf8ByteSize + 1
  | none => 0

/-- The other directive is at least as specific: its source is longer, or as long with more
    fields, or with as many that do not come earlier in the alphabet. -/
def yieldsTo (directive other : LogDirective) : Bool :=
  let (own, its) := (directive.fields, other.fields)
  directive.reach < other.reach ||
    (directive.reach == other.reach &&
      (own.length < its.length || (own.length == its.length && !decide (its < own))))

def passes (directive : LogDirective) (level : Level) : Bool :=
  match directive.threshold with
  | some least => least.rank ≤ level.rank
  | none => false

end LogDirective

structure LogFilter where
  directives : List LogDirective
  deriving Repr, DecidableEq

namespace LogFilter

def split (text : String) : List String :=
  ((splitAll ',' text.toList).filter (· ≠ [])).map String.ofList

def parse? (text : String) : Option LogFilter :=
  ((split text).mapM LogDirective.read?).map LogFilter.mk

def parseKnown (text : String) : LogFilter :=
  ⟨(split text).filterMap LogDirective.read?⟩

def directivesOfLevel (level : String) : String :=
  s!"foundation_rpc={level},foundation_host={level},rpc_probe={level},tower_http={level}," ++
    "h2=warn,hyper=warn"

/-- The filter that the environment asks for, if it can be read, or that of a level. -/
def choose (requested : Option String) (level : String) : LogFilter :=
  match requested.bind parse? with
  | some filter => filter
  | none => parseKnown (directivesOfLevel level)

/-- The more specific of two directives; the later one if they are alike. -/
def stronger (best : Option LogDirective) (next : LogDirective) : Option LogDirective :=
  match best with
  | none => some next
  | some best => if best.yieldsTo next then some next else some best

def passes (filter : LogFilter) (event : Event) : Bool :=
  match (filter.directives.filter (·.concerns event)).foldl stronger none with
  | some directive => directive.passes event.level
  | none => false

end LogFilter

/-- How many lines an event takes in a log for people: one for each line break in what it
    shows, and one more. -/
def Event.lineCount (event : Event) : Nat :=
  event.fields.foldl (fun lines field => lines + field.2.toList.count '\n') 1

end RpcTransport
