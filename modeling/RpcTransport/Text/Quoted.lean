import RpcTransport.Text.Decimal
import RpcTransport.Text.Printable

/-! # Quoted text

Text between double quotes, as diagnostics show it. The quote, the backslash and the
common controls have two-character escapes; every other character that is not visible on
its own is written by its number.
-/

namespace RpcTransport.Quoted

def encodeChar (c : Char) : List Char :=
  match c with
  | '"' => ['\\', '"']
  | '\\' => ['\\', '\\']
  | '\n' => ['\\', 'n']
  | '\r' => ['\\', 'r']
  | '\t' => ['\\', 't']
  | '\x00' => ['\\', '0']
  | c =>
    if isHidden c then
      ['\\', 'u', '\x7b'] ++ (Decimal.hexText c.toNat).toList ++ ['\x7d']
    else [c]

def encode (text : String) : String :=
  String.ofList ('"' :: text.toList.flatMap encodeChar ++ ['"'])

def encodeList (texts : List String) : String :=
  "[" ++ String.intercalate ", " (texts.map encode) ++ "]"

example : encode "a\"b\\c" = "\"a\\\"b\\\\c\"" := by decide

end RpcTransport.Quoted
