import Stylesheet.Text.Split

set_option autoImplicit false

/-! # Blank characters

The characters with the Unicode property `White_Space`. They are trimmed from statements and
may follow the name of a directive.
-/

namespace Stylesheet.Text

/-- Whether a character has the Unicode property `White_Space`. -/
def isBlank (c : Char) : Bool :=
  let n := c.toNat
  (9 ≤ n && n ≤ 13) || n == 0x20 || n == 0x85 || n == 0xA0 || n == 0x1680
    || (0x2000 ≤ n && n ≤ 0x200A) || n == 0x2028 || n == 0x2029 || n == 0x202F || n == 0x205F
    || n == 0x3000

/-- A text without the blank characters at its ends. -/
def trim (cs : List Char) : List Char := trimWhile isBlank cs

end Stylesheet.Text
