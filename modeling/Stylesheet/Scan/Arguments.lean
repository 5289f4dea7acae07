import Stylesheet.Scan.Comments
import Stylesheet.Text.Blank
import Stylesheet.Text.Slice

set_option autoImplicit false

/-! # Arguments

The arguments of a directive stand between commas; a comma inside a string or parentheses
belongs to an argument. Here a string ends at the next quote of its kind, and a closing
parenthesis without an opening one is text.

`splitArguments` puts the arguments together character by character. `sliceArguments` cuts them
out of the text by byte offsets instead, as is done where texts are not copied; an offset that
lies inside a character would be an error there.
-/

namespace Stylesheet.Scan

structure ArgumentState where
  quote : Option Char
  depth : Nat
deriving DecidableEq, Repr

namespace ArgumentState

def start : ArgumentState := ⟨none, 0⟩

def cuts (s : ArgumentState) (c : Char) : Bool := s.quote == none && s.depth == 0 && c == ','

def next (s : ArgumentState) (c : Char) : ArgumentState :=
  match s.quote with
  | some q => if c = q then { s with quote := none } else s
  | none =>
    if isQuote c then { s with quote := some c }
    else if c = '(' then { s with depth := s.depth + 1 }
    else if c = ')' then { s with depth := s.depth - 1 }
    else s

end ArgumentState

/-- The arguments of a text, read from a given state. -/
def argumentsFrom : ArgumentState → List Char → List (List Char)
  | _, [] => [[]]
  | s, c :: cs =>
    if s.cuts c then [] :: argumentsFrom (s.next c) cs
    else match argumentsFrom (s.next c) cs with
      | [] => [[c]]
      | a :: as => (c :: a) :: as

/-- The arguments of a text: the pieces between its outermost commas, those outside of strings and
parentheses. -/
def splitArguments (cs : List Char) : List (List Char) := argumentsFrom .start cs

/-- The arguments of a text cut out of it, by the byte offsets where the argument that is read
starts and where the rest of the text does. -/
def sliceArgumentsFrom (text : List Char) :
    ArgumentState → Nat → Nat → List Char → Except Text.BadOffset (List (List Char))
  | _, begin, _, [] => do
    let part ← Text.sliceFrom text begin
    return [part]
  | s, begin, here, c :: cs =>
    if s.cuts c then do
      let part ← Text.slice text begin here
      let parts ← sliceArgumentsFrom text (s.next c) (here + 1) (here + c.utf8Size) cs
      return part :: parts
    else sliceArgumentsFrom text (s.next c) begin (here + c.utf8Size) cs

/-- The arguments of a text as slices of it. Each slice is checked to lie in the text and between
its characters. -/
def sliceArguments (text : List Char) : Except Text.BadOffset (List (List Char)) :=
  sliceArgumentsFrom text .start 0 0 text

/-- What stands in the quotes that a text starts with. -/
def leadingQuoted? : List Char → Option (List Char)
  | [] => none
  | q :: cs =>
    if isQuote q then if q ∈ cs then some (cs.takeWhile (· != q)) else none
    else none

end Stylesheet.Scan
