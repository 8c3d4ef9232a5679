/-! # Blank text

The characters with the Unicode property `White_Space`, and text made of nothing else.
-/

namespace RpcTransport

/-- The character has the property `White_Space`. -/
def isBlank (c : Char) : Bool :=
  let n := c.toNat
  (9 ≤ n && n ≤ 13) || n == 0x20 || n == 0x85 || n == 0xA0 || n == 0x1680 ||
    (0x2000 ≤ n && n ≤ 0x200A) || n == 0x2028 || n == 0x2029 || n == 0x202F ||
    n == 0x205F || n == 0x3000

def isBlankText (text : String) : Bool :=
  text.toList.all isBlank

example : isBlankText " \u3000\t" = true := by decide
example : isBlankText "\u200b" = false := by decide

end RpcTransport
