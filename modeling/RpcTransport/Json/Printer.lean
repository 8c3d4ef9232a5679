import RpcTransport.Json.Value
import RpcTransport.Text.Shortest

/-! # Writing JSON

One line without spaces, the fields of each object in order of their names. A float has
the fewest digits that read back, always with a point or an exponent; the exponent form
is used below `10^-5` and from `10^16` on.
-/

namespace RpcTransport.Json

def controlEscape (n : Nat) : List Char :=
  let digits := Nat.toDigits 16 n
  ['\\', 'u'] ++ List.replicate (4 - digits.length) '0' ++ digits

def stringChar (c : Char) : List Char :=
  match c with
  | '"' => ['\\', '"']
  | '\\' => ['\\', '\\']
  | '\n' => ['\\', 'n']
  | '\r' => ['\\', 'r']
  | '\t' => ['\\', 't']
  | '\x08' => ['\\', 'b']
  | '\x0c' => ['\\', 'f']
  | c => if c.toNat < 0x20 then controlEscape c.toNat else [c]

def stringText (text : String) : String :=
  String.ofList ('"' :: text.toList.flatMap stringChar ++ ['"'])

def decimalText (d : Shortest.Decimal) : String :=
  let digits := Nat.toDigits 10 d.digits
  let point : Int := digits.length + d.exponent
  let zeros (n : Int) : List Char := List.replicate n.toNat '0'
  String.ofList <|
    if 0 ≤ d.exponent ∧ point ≤ 16 then digits ++ zeros d.exponent ++ ['.', '0']
    else if 0 < point ∧ point ≤ 16 then
      digits.take point.toNat ++ '.' :: digits.drop point.toNat
    else if -5 < point ∧ point ≤ 0 then '0' :: '.' :: zeros (-point) ++ digits
    else
      digits.take 1 ++ (if digits.length = 1 then [] else '.' :: digits.drop 1) ++
        'e' :: (toString (point - 1)).toList

/-- A float; those that are not finite have no form in JSON and become null. -/
def floatText (x : Float) : String :=
  if x.isNaN || x.isInf then "null"
  else
    let bits := x.toBits
    let sign := if 1 <<< 63 ≤ bits.toNat then "-" else ""
    let magnitude := UInt64.ofNat (bits.toNat % (1 <<< 63))
    if magnitude = 0 then sign ++ "0.0" else sign ++ decimalText (Shortest.ofBits magnitude)

mutual

def Value.text : Value → String
  | .null => "null"
  | .bool true => "true"
  | .bool false => "false"
  | .integer value => toString value
  | .float value => floatText value
  | .string value => stringText value
  | .array items => "[" ++ String.intercalate "," (itemTexts items) ++ "]"
  | .object members =>
    "\x7b" ++ String.intercalate "," ((sortFields (memberTexts members)).map fun field =>
      stringText field.1 ++ ":" ++ field.2) ++ "\x7d"

def itemTexts : List Value → List String
  | [] => []
  | item :: rest => item.text :: itemTexts rest

def memberTexts : List (String × Value) → List (String × String)
  | [] => []
  | (name, value) :: rest => (name, value.text) :: memberTexts rest

end

end RpcTransport.Json
