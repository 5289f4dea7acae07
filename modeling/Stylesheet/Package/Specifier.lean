import Stylesheet.Text.Slice

set_option autoImplicit false

/-! # Package specifiers

A package specifier names a package and, after a slash, something inside it. The package is
the first segment, or the first two if the specifier starts with `@`; none of them may be
empty.
-/

namespace Stylesheet.Package

open Text

structure Specifier where
  package : String
  /-- What is meant inside the package, if anything. -/
  subpath : Option String
deriving DecidableEq, Repr

namespace Specifier

/-- The number of segments that name the package. -/
def nameLength (cs : List Char) : Nat := if cs.head? = some '@' then 2 else 1

/-- The byte offset where the segment that starts at an offset ends, unless it is empty. -/
def segmentEnd (cs : List Char) (start : Nat) : Except BadOffset (Option Nat) := do
  let rest ← sliceFrom cs start
  let length := (byteIndexOf? '/' rest).getD (byteLength cs - start)
  return if length = 0 then none else some (start + length)

/-- The byte offset where the last of the given segments ends, from where the one before them
ended. There is none if one of them is missing or empty. -/
def nameEnd (cs : List Char) : List Nat → Nat → Except BadOffset (Option Nat)
  | [], stop => return some stop
  | segment :: rest, stop => do
    -- Every segment but the first has a separator in front of it.
    let start := if 0 < segment then stop + 1 else stop
    if 0 < segment ∧ byteLength cs ≤ start then return none
    else
      match ← segmentEnd cs start with
      | some stop => nameEnd cs rest stop
      | none => return none

/-- Cuts a package specifier into the package and the rest. -/
def split (s : String) : Except BadOffset (Option Specifier) := do
  let cs := s.toList
  match ← nameEnd cs (List.range (nameLength cs)) 0 with
  | none => return none
  | some stop =>
    let package ← sliceTo cs stop
    let subpath := (splitAtByte? (stop + 1) cs).map Prod.snd
    return some
      { package := String.ofList package
        subpath := (subpath.filter (· ≠ [])).map String.ofList }

def parse? (s : String) : Option Specifier := (split s).toOption.join

end Specifier

end Stylesheet.Package
