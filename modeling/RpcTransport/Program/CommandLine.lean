import RpcTransport.Text.Split
import RpcTransport.Text.Decimal

/-! # Command lines

Options take one value each, in the next argument or behind an equals sign, and may be given
once. `--` ends the options. Arguments are taken from left to right, and the first that is
wrong, or that asks for help, decides.
-/

namespace RpcTransport

inductive ValueKind where
  | text
  | path
  | word64
  deriving Repr, DecidableEq

structure OptionSpec where
  long : String
  short : Option Char
  kind : ValueKind
  deriving Repr, DecidableEq

inductive CommandLine where
  | help
  | misuse
  | arguments (options : List (String × String)) (positional : List String)
  deriving Repr, DecidableEq

namespace CommandLine

/-- A number from 0 to 2^64 - 1, which may have one plus sign. -/
def readWord64? (text : String) : Option UInt64 :=
  let digits := match text.toList with
    | '+' :: rest => rest
    | chars => chars
  (Decimal.readBelow? UInt64.size digits).map UInt64.ofNat

def isOfKind (value : String) : ValueKind → Bool
  | .text => true
  | .path => value ≠ ""
  | .word64 => (readWord64? value).isSome

/-- An argument with this text cannot be the value of the option before it. -/
def isFlag (argument : String) : Bool :=
  match argument.toList with
  | '-' :: _ :: _ => true
  | _ => false

def readOption? (specs : List OptionSpec) (argument : String) :
    Option (OptionSpec × Option String) :=
  match argument.toList with
  | '-' :: '-' :: rest =>
    let (name, value) := match splitFirst? '=' rest with
      | some (name, value) => (name, some (String.ofList value))
      | none => (rest, none)
    (specs.find? fun spec => spec.long = String.ofList name).map (·, value)
  | '-' :: c :: rest =>
    let value := match rest with
      | [] => none
      | '=' :: value => some (String.ofList value)
      | value => some (String.ofList value)
    (specs.find? fun spec => spec.short = some c).map (·, value)
  | _ => none

def asksForHelp (argument : String) : Bool :=
  argument = "--help" ||
    (match argument.toList with
      | '-' :: 'h' :: _ => true
      | _ => false)

/-- Take arguments one by one. `limit` is how many may be positional; `pending` is an option
    that has yet to get its value. -/
def take (specs : List OptionSpec) (limit : Nat) (options : List (String × String))
    (positional : List String) (plain : Bool) (pending : Option OptionSpec) :
    List String → CommandLine
  | [] => if pending.isSome then misuse else arguments options positional
  | argument :: rest =>
    let store (spec : OptionSpec) (value : String) : CommandLine :=
      if !isOfKind value spec.kind || (options.lookup spec.long).isSome then misuse
      else take specs limit (options ++ [(spec.long, value)]) positional plain none rest
    let place : CommandLine :=
      if positional.length < limit then
        take specs limit options (positional ++ [argument]) plain none rest
      else misuse
    match pending with
    | some spec => if isFlag argument then misuse else store spec argument
    | none =>
      if plain then place
      else if argument = "--" then take specs limit options positional true none rest
      else if !isFlag argument then place
      else if asksForHelp argument then help
      else
        match readOption? specs argument with
        | none => misuse
        | some (spec, some value) => store spec value
        | some (spec, none) => take specs limit options positional plain (some spec) rest

def parse (specs : List OptionSpec) (limit : Nat) (arguments : List String) : CommandLine :=
  take specs limit [] [] false none arguments

end CommandLine

end RpcTransport
