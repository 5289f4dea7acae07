set_option autoImplicit false

/-! # Hexadecimal digits

Bytes are written as two hexadecimal digits. Either case is read; which one is written is
the writer's choice.
-/

namespace Stylesheet.Hex

/-- The value of a hexadecimal digit of either case. -/
def value? (c : Char) : Option Nat :=
  if '0' ≤ c ∧ c ≤ '9' then some (c.toNat - '0'.toNat)
  else if 'a' ≤ c ∧ c ≤ 'f' then some (c.toNat - 'a'.toNat + 10)
  else if 'A' ≤ c ∧ c ≤ 'F' then some (c.toNat - 'A'.toNat + 10)
  else none

def upperDigit (n : Nat) : Char := Char.ofNat (if n < 10 then n + 48 else n + 55)

def lowerDigit (n : Nat) : Char := Char.ofNat (if n < 10 then n + 48 else n + 87)

/-- The digits of a number in lower case, without leading zeros. -/
def lowerDigits (n : Nat) : List Char := (Nat.toDigits 16 n).map Char.toLower

def lowerByte (b : UInt8) : List Char := [lowerDigit (b.toNat / 16), lowerDigit (b.toNat % 16)]

theorem value?_lowerDigit : ∀ n < 16, value? (lowerDigit n) = some n := by decide

end Stylesheet.Hex
