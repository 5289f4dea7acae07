set_option autoImplicit false

/-! # Slices of a text

A text takes up one to four bytes for each character, and a slice of it is named by byte
offsets. There is a slice only if its ends lie between characters of the text, or at its ends.
-/

namespace Stylesheet.Text

def byteLength : List Char → Nat
  | [] => 0
  | c :: cs => c.utf8Size + byteLength cs

/-- The text before and the text after a byte offset, if it lies between characters. -/
def splitAtByte? : Nat → List Char → Option (List Char × List Char)
  | 0, cs => some ([], cs)
  | _ + 1, [] => none
  | n + 1, c :: cs =>
    if c.utf8Size ≤ n + 1 then
      (splitAtByte? (n + 1 - c.utf8Size) cs).map fun (before, rest) => (c :: before, rest)
    else none

def byteIndexOf? (c : Char) : List Char → Option Nat
  | [] => none
  | d :: ds => if d = c then some 0 else (byteIndexOf? c ds).map (d.utf8Size + ·)

/-- A byte offset where a text was to be sliced and cannot be: it lies behind the end or inside of a
character. -/
structure BadOffset where
  offset : Nat
deriving DecidableEq, Repr

def sliceTo (cs : List Char) (offset : Nat) : Except BadOffset (List Char) :=
  match splitAtByte? offset cs with
  | some (before, _) => .ok before
  | none => .error ⟨offset⟩

def sliceFrom (cs : List Char) (offset : Nat) : Except BadOffset (List Char) :=
  match splitAtByte? offset cs with
  | some (_, rest) => .ok rest
  | none => .error ⟨offset⟩

def slice (cs : List Char) (start stop : Nat) : Except BadOffset (List Char) := do
  let before ← sliceTo cs stop
  sliceFrom before start

end Stylesheet.Text
