import Stylesheet.Text.CombiningClass
import Stylesheet.Text.Composite

set_option autoImplicit false

/-! # Composed texts

Texts that differ only in whether composites are used, or in the order of marks that do not
touch each other, look the same. `composed` picks one of them: composites are taken apart,
marks are put in the order of their classes, and what can be joined is joined again (the
Unicode normalization form C, for texts whose characters are used in composed texts).
-/

namespace Stylesheet.Text

/-! ## Taking apart -/

/-- How often a composite may have to be taken apart. -/
def maxParts : Nat := 4

/-- The characters that a character stands for, composites taken apart so many times. -/
def parts : Nat → Char → List Char
  | 0, c => [c]
  | n + 1, c =>
    match split? c with
    | some (a, b) => parts n a ++ [b]
    | none => [c]

/-! ## Ordering marks -/

/-- A character with its combining class. -/
abbrev Classed := Nat × Char

def classed (c : Char) : Classed := (combiningClass c, c)

/-- Characters, the last one first, after one more; marks of higher classes go behind it. -/
def insertMark (m : Classed) : List Classed → List Classed
  | [] => [m]
  | x :: xs => if 0 < m.1 && m.1 < x.1 then x :: insertMark m xs else m :: x :: xs

/-- Characters with the marks between letters in the order of their classes. -/
def ordered (cs : List Classed) : List Classed :=
  (cs.foldl (fun done m => insertMark m done) []).reverse

/-! ## Joining -/

/-- Joins characters to the letter in front of them. `marks` are the marks between the two,
the last one first: behind one of the same or a higher class nothing is joined. -/
def joinTo (letter : Char) (marks : List Classed) : List Classed → List Char
  | [] => letter :: (marks.reverse.map (·.2))
  | m :: rest =>
    let isFree := match marks with
      | [] => true
      | x :: _ => x.1 < m.1
    match (if isFree then joined? letter m.2 else none) with
    | some c => joinTo c marks rest
    | none =>
      if m.1 = 0 then letter :: (marks.reverse.map (·.2)) ++ joinTo m.2 [] rest
      else joinTo letter (m :: marks) rest

/-- Joins what can be joined; marks in front of the first letter stay alone. -/
def joinAll : List Classed → List Char
  | [] => []
  | m :: rest => if m.1 = 0 then joinTo m.2 [] rest else m.2 :: joinAll rest

/-- A text in composed form: taken apart, its marks put in the order of their classes, and joined
again. -/
def composed (cs : List Char) : List Char :=
  joinAll (ordered ((cs.flatMap (parts maxParts)).map classed))

/-- Ordering neither adds nor drops characters. -/
theorem insertMark_perm (m : Classed) (xs : List Classed) : (insertMark m xs).Perm (m :: xs) := by
  induction xs with
  | nil => exact .refl _
  | cons x xs ih =>
    unfold insertMark
    split
    · exact (ih.cons x).trans (.swap m x xs)
    · exact .refl _

theorem ordered_perm (cs : List Classed) : (ordered cs).Perm cs := by
  suffices h : ∀ (cs done : List Classed),
      (cs.foldl (fun done m => insertMark m done) done).Perm (cs ++ done) by
    simpa [ordered] using (List.reverse_perm _).trans (h cs [])
  intro cs
  induction cs with
  | nil => exact fun done => .refl _
  | cons m cs ih =>
    intro done
    exact (ih _).trans (((insertMark_perm m done).append_left cs).trans List.perm_middle)

end Stylesheet.Text
