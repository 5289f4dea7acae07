import Stylesheet.Text.Hex
import Stylesheet.Text.Printable

set_option autoImplicit false

/-! # Quoted texts

A text between double quotes, on one line and without anything that cannot be seen: such
characters are written by their number.
-/

namespace Stylesheet.Text

def quotedChar (c : Char) : List Char :=
  if c = '\x00' then ['\\', '0']
  else if c = '\t' then ['\\', 't']
  else if c = '\r' then ['\\', 'r']
  else if c = '\n' then ['\\', 'n']
  else if c = '\\' ∨ c = '"' then ['\\', c]
  else if isPrintable c then [c]
  else ['\\', 'u', '\x7b'] ++ Nat.toDigits 16 c.toNat ++ ['\x7d']

def quoted (cs : List Char) : List Char := '"' :: cs.flatMap quotedChar ++ ['"']

end Stylesheet.Text
