set_option autoImplicit false

/-! # Base64

Three bytes are written as four characters of an alphabet of sixty-four; one or two bytes at
the end as two or three characters, filled up with `=`. Reading accepts exactly what writing
produces, so `decode?` undoes `encode`.
-/

namespace Stylesheet.Base64

def digit (n : Nat) : Char :=
  Char.ofNat
    (if n < 26 then n + 65 else if n < 52 then n + 71 else if n < 62 then n - 4
     else if n = 62 then 43 else 47)

def value? (c : Char) : Option Nat :=
  if 'A' ≤ c ∧ c ≤ 'Z' then some (c.toNat - 65)
  else if 'a' ≤ c ∧ c ≤ 'z' then some (c.toNat - 71)
  else if '0' ≤ c ∧ c ≤ '9' then some (c.toNat + 4)
  else if c = '+' then some 62
  else if c = '/' then some 63
  else none

def encode : List UInt8 → List Char
  | [] => []
  | [a] => [digit (a.toNat / 4), digit (a.toNat % 4 * 16), '=', '=']
  | [a, b] =>
    [digit (a.toNat / 4), digit (a.toNat % 4 * 16 + b.toNat / 16), digit (b.toNat % 16 * 4), '=']
  | a :: b :: c :: rest =>
    digit (a.toNat / 4) :: digit (a.toNat % 4 * 16 + b.toNat / 16)
      :: digit (b.toNat % 16 * 4 + c.toNat / 64) :: digit (c.toNat % 64) :: encode rest

/-- The byte that begins in the value `p` and ends in the value `q`, `q` giving its last bits
above `2 ^ k`. -/
def byteOf (p q k : Nat) : UInt8 := UInt8.ofNat (p * (64 / Nat.pow 2 k) + q / Nat.pow 2 k)

/-- The bytes that Base64 text stands for; none if the text is not one that `encode` gives. -/
def decode? : List Char → Option (List UInt8)
  | [] => some []
  | w :: x :: y :: z :: rest => do
    let p ← value? w
    let q ← value? x
    if y = '=' ∧ z = '=' ∧ rest = [] then
      if q % 16 = 0 then return [byteOf p q 4] else none
    else
      let r ← value? y
      if z = '=' ∧ rest = [] then
        if r % 4 = 0 then return [byteOf p q 4, byteOf (q % 16) r 2] else none
      else
        let s ← value? z
        let bytes ← decode? rest
        return byteOf p q 4 :: byteOf (q % 16) r 2 :: byteOf (r % 4) s 0 :: bytes
  | _ => none

/-! ## Reading back -/

theorem value?_digit : ∀ n < 64, value? (digit n) = some n := by decide

theorem digit_ne_fill : ∀ n < 64, digit n ≠ '=' := by decide

theorem byteOf_first (a : UInt8) (n : Nat) (hn : n < 16) :
    byteOf (a.toNat / 4) (a.toNat % 4 * 16 + n) 4 = a := by
  have := a.toNat_lt
  apply UInt8.toNat_inj.1
  simp [byteOf]; omega

theorem byteOf_second (b : UInt8) (n : Nat) (hn : n < 4) :
    byteOf (b.toNat / 16 % 16) (b.toNat % 16 * 4 + n) 2 = b := by
  have := b.toNat_lt
  apply UInt8.toNat_inj.1
  simp [byteOf]; omega

theorem byteOf_third (c : UInt8) : byteOf (c.toNat / 64 % 4) (c.toNat % 64) 0 = c := by
  have := c.toNat_lt
  apply UInt8.toNat_inj.1
  simp [byteOf]; omega

/-- Reading gives back the bytes that were written. -/
theorem decode?_encode (bs : List UInt8) : decode? (encode bs) = some bs := by
  fun_induction encode bs with
  | case1 => rfl
  | case2 a =>
    have := a.toNat_lt
    have h1 := byteOf_first a 0 (by omega)
    simp only [Nat.add_zero] at h1
    simp [decode?, value?_digit _ (show a.toNat / 4 < 64 by omega),
      value?_digit _ (show a.toNat % 4 * 16 < 64 by omega), h1]
  | case3 a b =>
    have := a.toNat_lt
    have := b.toNat_lt
    have h1 := byteOf_first a (b.toNat / 16) (by omega)
    have h2 := byteOf_second b 0 (by omega)
    simp only [Nat.add_zero] at h2
    have h3 : b.toNat % 16 * 4 < 64 := by omega
    simp [decode?, value?_digit _ (show a.toNat / 4 < 64 by omega),
      value?_digit _ (show a.toNat % 4 * 16 + b.toNat / 16 < 64 by omega),
      value?_digit _ h3, digit_ne_fill _ h3, h1, h2]
  | case4 a b c rest ih =>
    have := a.toNat_lt
    have := b.toNat_lt
    have := c.toNat_lt
    have h1 := byteOf_first a (b.toNat / 16) (by omega)
    have h2 := byteOf_second b (c.toNat / 64) (by omega)
    have h3 := byteOf_third c
    have h4 : b.toNat % 16 * 4 + c.toNat / 64 < 64 := by omega
    have h5 : c.toNat % 64 < 64 := by omega
    simp [decode?, value?_digit _ (show a.toNat / 4 < 64 by omega),
      value?_digit _ (show a.toNat % 4 * 16 + b.toNat / 16 < 64 by omega),
      value?_digit _ h4, value?_digit _ h5, digit_ne_fill _ h4, digit_ne_fill _ h5, h1, h2, h3, ih]

end Stylesheet.Base64
