set_option autoImplicit false

/-! # The fewest digits that read back

A binary fraction `m * 2 ^ q` stands for every real number that rounds to it. `shortest?`
finds the decimal number with the fewest digits among them, and the nearest of those. The
coarsest decimal grid with a point in that interval wins, and if there is one, one of the
two neighbours of the number itself on that grid is such a point.
-/

namespace Stylesheet

/-- A decimal number: its digits times a power of ten. -/
structure Decimal where
  digits : Nat
  exponent : Int
deriving DecidableEq, Repr

namespace Decimal

/-- The real numbers that round to one binary fraction: `low / unit` to `high / unit`, the
fraction itself being `value / unit`. -/
structure Interval where
  low : Nat
  value : Nat
  high : Nat
  unit : Nat
  closed : Bool
deriving DecidableEq, Repr

/-- The interval of `m * 2 ^ q`. Its lower half is only half as long if `m` is the least
significand of its binade. -/
def interval (m : Nat) (q : Int) (isLeast : Bool) : Interval :=
  let scale := Nat.pow 2 (q - 2).toNat
  { low := (4 * m - (if isLeast then 1 else 2)) * scale
    value := 4 * m * scale
    high := (4 * m + 2) * scale
    unit := Nat.pow 2 (2 - q).toNat
    closed := m % 2 == 0 }

/-- Whether `k * 10 ^ p` lies in an interval. -/
def Interval.holds (i : Interval) (p : Int) (k : Nat) : Bool :=
  let point := k * Nat.pow 10 p.toNat * i.unit
  let grain := Nat.pow 10 (-p).toNat
  if i.closed then i.low * grain ≤ point && point ≤ i.high * grain
  else i.low * grain < point && point < i.high * grain

/-- Which of `k` and `k + 1` times `10 ^ p` is nearer to the fraction; of two equally near
ones the even one. -/
def Interval.nearer (i : Interval) (p : Int) (k : Nat) : Nat :=
  let twice := 2 * i.value * Nat.pow 10 (-p).toNat
  let middle := (2 * k + 1) * Nat.pow 10 p.toNat * i.unit
  if twice < middle then k else if middle < twice then k + 1 else k + k % 2

/-- The best point of an interval on the grid of `10 ^ p`. -/
def Interval.pointAt? (i : Interval) (p : Int) : Option Decimal :=
  let k := i.value * Nat.pow 10 (-p).toNat / (Nat.pow 10 p.toNat * i.unit)
  match i.holds p k, i.holds p (k + 1) with
  | true, true => some ⟨i.nearer p k, p⟩
  | true, false => some ⟨k, p⟩
  | false, true => some ⟨k + 1, p⟩
  | false, false => none

/-- The exponents of the grids, the coarsest first: from above the greatest binary fraction of
64 bits to below the least. -/
def gridExponents : List Int := (List.range 651).map fun (n : Nat) => (309 : Int) - n

/-- The decimal number that stands for `m * 2 ^ q`: the nearest point on the coarsest grid that has
a point in its interval, and so one with as few digits as tell it apart. -/
def shortest? (m : Nat) (q : Int) (isLeast : Bool) : Option Decimal :=
  gridExponents.findSome? (interval m q isLeast).pointAt?

end Decimal

end Stylesheet
