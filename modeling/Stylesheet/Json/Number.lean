import Stylesheet.Decimal.Shortest
import Stylesheet.Json.Basic
import Stylesheet.Text.Split

set_option autoImplicit false

/-! # Numbers of JSON

A number without fraction and exponent that fits 64 bits is that whole number. Any other is
a binary fraction of 64 bits: its digits, as far as they fit a word, times a power of ten.
`Number.text` writes whole numbers with all their digits and binary fractions with the
fewest that read back.
-/

namespace Stylesheet.Json

inductive Number
  | whole (value : Int)
  | fraction (value : Float)

/-- A number taken apart. -/
structure Numeral where
  isNegative : Bool
  whole : List Char
  decimals : List Char
  exponent : Int
  /-- Whether there is neither a point nor an exponent. -/
  isPlain : Bool

/-- A whole number with an optional sign. -/
def signed : List Char → Int
  | '-' :: cs => - (natOfDigits cs : Int)
  | '+' :: cs => natOfDigits cs
  | cs => natOfDigits cs

def Numeral.ofText (text : List Char) : Numeral :=
  let isNegative := text.head? == some '-'
  let unsigned := if isNegative then text.drop 1 else text
  let isMark (c : Char) : Bool := c == 'e' || c == 'E'
  let significand := unsigned.takeWhile fun c => !isMark c
  let afterMark := unsigned.dropWhile fun c => !isMark c
  { isNegative
    whole := significand.takeWhile (· != '.')
    decimals := (significand.dropWhile (· != '.')).drop 1
    exponent := signed (afterMark.drop 1)
    isPlain := unsigned.all Char.isDigit }

/-- Appends digits to a word as long as they fit, and counts those left over. -/
def appendDigits : Nat → List Char → Nat × Nat
  | word, [] => (word, 0)
  | word, c :: cs =>
    let longer := natOfDigits [c] + 10 * word
    -- A digit that does not fit ends the word, and so do all after it.
    if longer < UInt64.size then appendDigits longer cs else (word, cs.length + 1)

/-- A word times a power of ten, or over it if the exponent is negative, in steps that a
binary fraction can hold. -/
def scale (word : Nat) (exponent : Int) : Float :=
  let f := Float.ofNat word
  let power (n : Nat) : Float := Float.ofScientific 1 false n
  if 0 ≤ exponent then f * power exponent.toNat
  else
    let n := (-exponent).toNat
    -- The greatest power of ten that is finite has the exponent 308.
    if n ≤ 308 then f / power n
    else if n ≤ 616 then f / power 308 / power (n - 308)
    else f / power 308 / power 308 / power (min (n - 616) 308)

/-- The binary fraction that a number stands for. -/
def Numeral.toFloat (n : Numeral) : Float :=
  let (word, dropped) := appendDigits 0 n.whole
  let (word', dropped') := appendDigits word n.decimals
  let f := scale word' (n.exponent + dropped - (n.decimals.length - dropped' : Nat))
  if n.isNegative then -f else f

def Number.ofText (text : List Char) : Number :=
  let n := Numeral.ofText text
  let v := natOfDigits n.whole
  if n.isPlain && !n.isNegative && v < UInt64.size then .whole v
  else if n.isPlain && n.isNegative && 0 < v && v ≤ UInt64.size / 2 then .whole (-v)
  else .fraction n.toFloat

/-- Digits with a point after the first one, if there are more. -/
def scientific : List Char → List Char
  | [] => []
  | [c] => [c]
  | c :: cs => c :: '.' :: cs

/-- An exponent with its sign, also if that is plus. -/
def exponentText (n : Int) : List Char :=
  (if 0 ≤ n then ['+'] else []) ++ (toString n).toList

/-- A decimal number in positional notation while its point is at most sixteen places after
its first digit and at most four before it, and otherwise with an exponent. -/
def decimalText (d : Decimal) : List Char :=
  let ds := Text.dropEndWhile (· == '0') (Nat.toDigits 10 d.digits)
  let exponent := d.exponent + ((Nat.toDigits 10 d.digits).length - ds.length : Nat)
  let point : Int := ds.length + exponent
  if 0 ≤ exponent ∧ point ≤ 16 then
    ds ++ List.replicate exponent.toNat '0' ++ ['.', '0']
  else if 0 < point ∧ point ≤ 16 then ds.take point.toNat ++ '.' :: ds.drop point.toNat
  else if -5 < point ∧ point ≤ 0 then '0' :: '.' :: List.replicate (-point).toNat '0' ++ ds
  else scientific ds ++ 'e' :: exponentText (point - 1)

/-- The decimal number nearest to a binary fraction among the shortest, the sign aside. -/
def shortestOfBits? (bits : UInt64) : Option Decimal :=
  let significand := bits.toNat % Nat.pow 2 52
  let exponent : Nat := bits.toNat / Nat.pow 2 52 % Nat.pow 2 11
  if exponent = 0 then Decimal.shortest? significand (-1074) false
  else
    Decimal.shortest? (significand + Nat.pow 2 52) (Int.ofNat exponent - 1075)
      (significand == 0 && 1 < exponent)

def floatText (f : Float) : List Char :=
  let bits := f.toBits
  let magnitude :=
    if bits.toNat % Nat.pow 2 63 = 0 then ['0', '.', '0']
    else ((shortestOfBits? bits).map decimalText).getD []
  if Nat.pow 2 63 ≤ bits.toNat then '-' :: magnitude else magnitude

def Number.text : Number → List Char
  | whole v => (toString v).toList
  | fraction f => floatText f

end Stylesheet.Json
