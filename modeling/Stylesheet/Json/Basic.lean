import Stylesheet.Json.Escape

set_option autoImplicit false

/-! # JSON documents

A document is kept as it was written: numbers and the insides of strings are texts. What
they mean is read off where it is needed, since a field that nobody asks for may hold a
number of any size or half a surrogate pair, while one that is asked for may not.
-/

namespace Stylesheet

/-- A JSON document. Numbers and strings are kept as they were written, so that what is read can be
written again without a loss. -/
inductive Json
  | null
  | bool (b : Bool)
  /-- A number by its text. -/
  | number (text : List Char)
  /-- A string by the text between its quotes. -/
  | string (text : List Char)
  | array (items : List Json)
  | object (members : List (List Char × Json))
deriving Inhabited, Repr

namespace Json

/-! ## Making documents -/

def ofString (s : String) : Json := .string (escape s.toList)

def ofNat (n : Nat) : Json := .number (Nat.toDigits 10 n)

def member (key : String) (value : Json) : List Char × Json := (escape key.toList, value)

/-! ## Reading documents -/

def string? : Json → Option String
  | .string text => (unescape? text).map String.ofList
  | _ => none

def listOf? {α : Type} (read : Json → Option α) : Json → Option (List α)
  | .array items => items.mapM read
  | _ => none

def nullOr? {α : Type} (read : Json → Option α) : Json → Option (Option α)
  | .null => some none
  | j => (read j).map some

def natOfDigits (cs : List Char) : Nat := cs.foldl (fun n c => n * 10 + (c.toNat - 48)) 0

/-- A number without sign, fraction and exponent that is below `bound`. -/
def natBelow? (bound : Nat) : Json → Option Nat
  | .number text =>
    if text.all Char.isDigit ∧ natOfDigits text < bound then some (natOfDigits text) else none
  | _ => none

/-- The members of an object by their keys; none if the document is no object or a key is not
a proper text. -/
def members? : Json → Option (List (String × Json))
  | .object members =>
    members.mapM fun (key, value) => (unescape? key).map fun key => (String.ofList key, value)
  | _ => none

def valuesOf (key : String) (members : List (String × Json)) : List Json :=
  members.filterMap fun (k, value) => if k = key then some value else none

/-- Reads the member `key`, which must be there once. -/
def required? {α : Type} (key : String) (read : Json → Option α) (members : List (String × Json)) :
    Option α :=
  match valuesOf key members with
  | [value] => read value
  | _ => none

/-- Reads the member `key`, which may be missing and then stands for `absent`. -/
def optional? {α : Type} (key : String) (absent : α) (read : Json → Option α)
    (members : List (String × Json)) : Option α :=
  match valuesOf key members with
  | [] => some absent
  | [value] => read value
  | _ => none

end Json

end Stylesheet
