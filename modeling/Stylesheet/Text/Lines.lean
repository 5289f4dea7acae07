import Stylesheet.Text.Split

set_option autoImplicit false

/-! # Lines

A line ends with a line feed, and a carriage return right before that belongs to the end
too. What follows the last line feed is a line of its own unless it is empty.
-/

namespace Stylesheet.Text

variable {α : Type} [DecidableEq α]

/-- A text without one `a` at its end. -/
def dropLastIf (a : α) (as : List α) : List α :=
  if as.getLast? = some a then as.dropLast else as

/-- The lines of a text in which `feed` ends lines, also after `back`. -/
def linesBy (feed back : α) (as : List α) : List (List α) :=
  match (pieces (· = feed) as).reverse with
  | [] => []
  | last :: ended =>
    ended.reverse.map (dropLastIf back) ++ (if last = [] then [] else [last])

/-- The lines of a text, without their ends. -/
def lines (cs : List Char) : List (List Char) := linesBy '\n' '\r' cs

end Stylesheet.Text
