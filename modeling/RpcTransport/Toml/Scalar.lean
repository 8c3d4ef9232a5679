import RpcTransport.Json.Value
import RpcTransport.Toml.Text

/-! # Numbers and moments of TOML

Integers fit 64 bits with a sign and may be written in four bases; floats must not
overflow upwards. Dates and times are checked against the calendar and then stand for
themselves: a value has no further use for their parts.
-/

namespace RpcTransport.Toml

open Json (Value)

/-- Digits, with single underscores between them. -/
def isDigitRun (isDigit : Char → Bool) (run : List Char) : Bool :=
  (splitRun run).all fun part => !part.isEmpty && part.all isDigit
where
  splitRun : List Char → List (List Char)
    | [] => [[]]
    | c :: rest =>
      match splitRun rest with
      | [] => [[c]]
      | part :: parts => if c = '_' then [] :: part :: parts else (c :: part) :: parts

def readDigits? (isDigit : Char → Bool) (text : List Char) : Option (List Nat × List Char) :=
  match text.span fun c => isDigit c || c == '_' with
  | (run, rest) =>
    if isDigitRun isDigit run then some (run.filterMap Decimal.hexDigit?, rest) else none

def integer? (value : Int) : Option Value :=
  if Int64.minValue.toInt ≤ value ∧ value ≤ Int64.maxValue.toInt then some (.integer value)
  else none

def readInBase? (base : Nat) (isDigit : Char → Bool) (text : List Char) :
    Option (Value × List Char) := do
  let (digits, rest) ← readDigits? isDigit text
  return (← integer? (Decimal.readBase base digits), rest)

def readExponent? (text : List Char) : Option (Int × List Char) := do
  let (negative, text) := match text with
    | '-' :: rest => (true, rest)
    | '+' :: rest => (false, rest)
    | rest => (false, rest)
  let (digits, rest) ← readDigits? Char.isDigit text
  let value : Int := Decimal.readBase 10 digits
  return (if negative then -value else value, rest)

def readExponentPart? : List Char → Option (Int × List Char)
  | 'e' :: rest => readExponent? rest
  | 'E' :: rest => readExponent? rest
  | rest => some (0, rest)

def decimalFloat (digits : List Nat) (exponent : Int) : Float :=
  let value := Decimal.readBase 10 digits
  let magnitude := (toString value).length + exponent
  if value = 0 ∨ magnitude < -400 then 0
  else if 400 < magnitude then 1 / 0
  else if 0 ≤ exponent then Float.ofScientific value false exponent.toNat
  else Float.ofScientific value true (-exponent).toNat

/-- A float from its parts; a positive one must be finite. -/
def float? (negative : Bool) (digits : List Nat) (exponent : Int) : Option Value :=
  let x := decimalFloat digits exponent
  if negative then some (.float (-x)) else if x.isInf then none else some (.float x)

/-- A number behind its sign. The digits before the point have no leading zeros. -/
def readUnsigned? (negative : Bool) : List Char → Option (Value × List Char)
  | 'i' :: 'n' :: 'f' :: rest => some (.float (if negative then -1 / 0 else 1 / 0), rest)
  | 'n' :: 'a' :: 'n' :: rest => some (.float (0 / 0), rest)
  | text => do
    let (whole, rest) ← readDigits? Char.isDigit text
    if whole.head? = some 0 ∧ 1 < whole.length then none
    else
      match rest with
      | '.' :: rest =>
        let (fraction, rest) ← readDigits? Char.isDigit rest
        let (exponent, rest) ← readExponentPart? rest
        return (← float? negative (whole ++ fraction) (exponent - fraction.length), rest)
      | c :: _ =>
        if c = 'e' ∨ c = 'E' then
          let (exponent, rest) ← readExponentPart? rest
          return (← float? negative whole exponent, rest)
        else
          let value : Int := Decimal.readBase 10 whole
          return (← integer? (if negative then -value else value), rest)
      | [] =>
        let value : Int := Decimal.readBase 10 whole
        return (← integer? (if negative then -value else value), [])

def isBit (c : Char) : Bool := c == '0' || c == '1'

def isOctal (c : Char) : Bool := '0' ≤ c && c ≤ '7'

def readNumber? : List Char → Option (Value × List Char)
  | '0' :: 'x' :: rest => readInBase? 16 (fun c => (Decimal.hexDigit? c).isSome) rest
  | '0' :: 'o' :: rest => readInBase? 8 isOctal rest
  | '0' :: 'b' :: rest => readInBase? 2 isBit rest
  | '+' :: rest => readUnsigned? false rest
  | '-' :: rest => readUnsigned? true rest
  | text => readUnsigned? false text

def readPair? (least most : Nat) : List Char → Option (Nat × List Char)
  | a :: b :: rest => do
    let value := (← Decimal.digit? a) * 10 + (← Decimal.digit? b)
    if least ≤ value ∧ value ≤ most then return (value, rest) else none
  | _ => none

def skip? (expected : Char) : List Char → Option (List Char)
  | c :: rest => if c = expected then some rest else none
  | [] => none

def daysIn (year month : Nat) : Nat :=
  if month = 2 then if year % 4 = 0 ∧ (year % 100 ≠ 0 ∨ year % 400 = 0) then 29 else 28
  else if month = 4 ∨ month = 6 ∨ month = 9 ∨ month = 11 then 30
  else 31

def skipDate? : List Char → Option (List Char)
  | a :: b :: c :: d :: rest => do
    let year ← Decimal.readNat? [a, b, c, d]
    let (month, rest) ← readPair? 1 12 (← skip? '-' rest)
    let (_, rest) ← readPair? 1 (daysIn year month) (← skip? '-' rest)
    return rest
  | _ => none

def skipTime? (text : List Char) : Option (List Char) := do
  let (_, rest) ← readPair? 0 23 text
  let (_, rest) ← readPair? 0 59 (← skip? ':' rest)
  let (_, rest) ← readPair? 0 60 (← skip? ':' rest)
  match rest with
  | '.' :: c :: rest => if c.isDigit then return rest.dropWhile Char.isDigit else none
  | rest => return rest

def skipOffset? : List Char → Option (List Char)
  | 'Z' :: rest => some rest
  | 'z' :: rest => some rest
  | c :: rest =>
    if c = '+' ∨ c = '-' then do
      let (_, rest) ← readPair? 0 23 rest
      let (_, rest) ← readPair? 0 59 (← skip? ':' rest)
      return rest
    else some (c :: rest)
  | [] => some []

/-- A time and its offset behind a date, if they follow. A blank may also end the date. -/
def skipTimeOfDay? : List Char → Option (List Char)
  | c :: rest =>
    if c = 'T' ∨ c = 't' then (skipTime? rest).bind skipOffset?
    else if c = ' ' then
      match readPair? 0 23 rest with
      | some (_, ':' :: _) => (skipTime? rest).bind skipOffset?
      | _ => some (c :: rest)
    else some (c :: rest)
  | [] => some []

/-- What follows a date, a time, or both; the outer `none` says that the text starts with
    neither, the inner one that what it starts with is malformed. -/
def skipMoment? : List Char → Option (Option (List Char))
  | a :: b :: c :: d :: e :: rest =>
    if [a, b, c, d].all Char.isDigit && e == '-' then
      some ((skipDate? (a :: b :: c :: d :: e :: rest)).bind skipTimeOfDay?)
    else if a.isDigit && b.isDigit && c == ':' then
      some (skipTime? (a :: b :: c :: d :: e :: rest))
    else none
  | _ => none

/-- The one field of the object that stands for a date or time. -/
def momentField : String := "$datetime"

def readNumeric? (text : List Char) : Option (Value × List Char) :=
  match skipMoment? text with
  | none => readNumber? text
  | some none => none
  | some (some rest) =>
    let written := String.ofList (text.take (text.length - rest.length))
    some (.object [(momentField, .string written)], rest)

end RpcTransport.Toml
