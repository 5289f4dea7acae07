import Stylesheet.Text.Split

set_option autoImplicit false

/-! # Punycode

A text is written in ASCII as its ASCII characters, a hyphen, and a number for each insertion
of another character. The characters are inserted in their order, and a number tells how far
to go on from the last insertion, over the places of the text and then over the characters.
Numbers are written in digits of a variable base, the least one first; thresholds that follow
the numbers so far tell which digit is a number's last.
-/

namespace Stylesheet.DomainName.Punycode

def digit (n : Nat) : Char := Char.ofNat (if n < 26 then n + 97 else n + 22)

def value? (c : Char) : Option Nat :=
  if 'a' ≤ c ∧ c ≤ 'z' then some (c.toNat - 97)
  else if '0' ≤ c ∧ c ≤ '9' then some (c.toNat - 22)
  else none

theorem value?_digit : ∀ n < 36, value? (digit n) = some n := by decide

def firstOther : Nat := 0x80

def firstBias : Nat := 72

/-- The value from which a digit at a position is not the last of its number. -/
def threshold (bias position : Nat) : Nat :=
  if position ≤ bias then 1 else if bias + 26 ≤ position then 26 else position - bias

/-- The bias after a number in a text of `points` characters. -/
def nextBias (number points : Nat) (isFirst : Bool) : Nat :=
  let n := if isFirst then number / 700 else number / 2
  reduce 64 (n + n / points) 0
where
  /-- Divides until the rest is small, counting the divisions in steps of thirty-six. -/
  reduce : Nat → Nat → Nat → Nat
    | 0, n, k => k + 36 * n / (n + 38)
    | fuel + 1, n, k =>
      if n > 455 then reduce fuel (n / 35) (k + 36) else k + 36 * n / (n + 38)

/-! ## Writing -/

def digits (bias : Nat) : Nat → Nat → Nat → List Char
  | 0, _, n => [digit n]
  | fuel + 1, position, n =>
    let t := threshold bias position
    if n < t then [digit n]
    else
      digit (t + (n - t) % (36 - t)) :: digits bias fuel (position + 36) ((n - t) / (36 - t))

structure Writing where
  /-- How far the next insertion is from the last one. -/
  distance : Nat
  bias : Nat
  placed : Nat
  isFirst : Bool
  output : List Char

/-- Writes the insertions of the character `n` into the text. -/
def Writing.insert (text : List Char) (n : Nat) (w : Writing) : Writing :=
  let w := text.foldl (fun w c =>
    if c.toNat < n then { w with distance := w.distance + 1 }
    else if c.toNat = n then
      { distance := 0, bias := nextBias w.distance (w.placed + 1) w.isFirst,
        placed := w.placed + 1, isFirst := false,
        output := w.output ++ digits w.bias 64 36 w.distance }
    else w) w
  { w with distance := w.distance + 1 }

/-- A text in ASCII. -/
def encode (text : List Char) : List Char :=
  let basic := text.filter (·.toNat < firstOther)
  let others := (text.filter (firstOther ≤ ·.toNat)).map Char.toNat |>.mergeSort |>.eraseDups
  let start : Writing :=
    { distance := 0, bias := firstBias, placed := basic.length, isFirst := true,
      output := if basic = [] then [] else basic ++ ['-'] }
  -- Between two characters to insert lie rounds through the text without an insertion.
  let (w, _) := others.foldl (fun (w, next) n =>
    (Writing.insert text n { w with distance := w.distance + (n - next) * (w.placed + 1) }, n + 1))
    (start, firstOther)
  w.output

/-! ## Reading -/

structure Reading where
  text : List Char
  code : Nat := firstOther
  /-- Where the last insertion left off. -/
  start : Nat := 0
  bias : Nat := firstBias
  /-- The place that the number read so far leads to. -/
  index : Nat := 0
  weight : Nat := 1
  position : Nat := 36

def bound : Nat := UInt32.size

/-- The reading after an insertion at the place that a number leads to. -/
def Reading.insert? (r : Reading) : Option Reading :=
  let points := r.text.length + 1
  let code := r.code + r.index / points
  let place := r.index % points
  if code.isValidChar then
    some
      { text := r.text.take place ++ Char.ofNat code :: r.text.drop place
        code, start := place + 1, index := place + 1
        bias := nextBias (r.index - r.start) points (r.start == 0) }
  else none

def Reading.digit? (r : Reading) (d : Nat) : Option Reading :=
  let t := threshold r.bias r.position
  let index := r.index + d * r.weight
  let weight := r.weight * (36 - t)
  if bound ≤ index then none
  else if d < t then Reading.insert? { r with index }
  else if bound ≤ weight then none
  else some { r with index, weight, position := r.position + 36 }

/-- Reads digits up to the end of a number. -/
def Reading.run? (r : Reading) : List Char → Option (List Char)
  | [] => if r.position = 36 then some r.text else none
  | c :: cs =>
    match value? c with
    | some d =>
      match r.digit? d with
      | some r => r.run? cs
      | none => none
    | none => none

/-- The text that is written in ASCII. A hyphen stands only behind other characters. -/
def decode? (cs : List Char) : Option (List Char) :=
  match Text.cutAtLast? ['-'] cs with
  | some ([], _) => none
  | some (basic, digits) => Reading.run? { text := basic } digits
  | none => Reading.run? { text := [] } cs

end Stylesheet.DomainName.Punycode
