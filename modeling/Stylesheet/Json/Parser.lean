import Stylesheet.Json.Basic

set_option autoImplicit false

/-! # Reading JSON

Text is cut into tokens one character at a time, and the tokens are read as one document.
Nothing but blanks may stand around it. Strings may hold any character but control
characters, and only escapes that are spelled right; numbers have no leading zeros.
-/

namespace Stylesheet.Json

/-- A piece of JSON text. -/
inductive Token
  | openBrace
  | closeBrace
  | openBracket
  | closeBracket
  | colon
  | comma
  /-- A word or number: whatever stands between blanks and signs. -/
  | bare (text : List Char)
  | quoted (text : List Char)
deriving DecidableEq, Repr

def sign? (c : Char) : Option Token :=
  if c = '\x7b' then some .openBrace else if c = '\x7d' then some .closeBrace
  else if c = '[' then some .openBracket else if c = ']' then some .closeBracket
  else if c = ':' then some .colon else if c = ',' then some .comma else none

def isSpace (c : Char) : Bool := c == ' ' || c == '\n' || c == '\t' || c == '\r'

/-- Where a reader of JSON text stands. What has been read of a token is kept last first. -/
inductive LexState
  | between
  | inBare (read : List Char)
  | inQuoted (read : List Char)
  | afterBackslash (read : List Char)

/-- The tokens of a text, read from a given state; none if a string does not end or holds a
control character. -/
def tokensFrom : LexState → List Char → Option (List Token)
  | .between, [] => some []
  | .inBare read, [] => some [.bare read.reverse]
  | .inQuoted _, [] => none
  | .afterBackslash _, [] => none
  | .between, c :: cs =>
    if isSpace c then tokensFrom .between cs
    else if c = '"' then tokensFrom (.inQuoted []) cs
    else match sign? c with
      | some token => (tokensFrom .between cs).map (token :: ·)
      | none => tokensFrom (.inBare [c]) cs
  | .inBare read, c :: cs =>
    if isSpace c then (tokensFrom .between cs).map (.bare read.reverse :: ·)
    else if c = '"' then (tokensFrom (.inQuoted []) cs).map (.bare read.reverse :: ·)
    else match sign? c with
      | some token => (tokensFrom .between cs).map fun ts => .bare read.reverse :: token :: ts
      | none => tokensFrom (.inBare (c :: read)) cs
  | .inQuoted read, c :: cs =>
    if c = '"' then (tokensFrom .between cs).map (.quoted read.reverse :: ·)
    else if c.toNat < 0x20 then none
    else if c = '\\' then tokensFrom (.afterBackslash (c :: read)) cs
    else tokensFrom (.inQuoted (c :: read)) cs
  | .afterBackslash read, c :: cs =>
    if c.toNat < 0x20 then none else tokensFrom (.inQuoted (c :: read)) cs

/-- Whether digits may stand before a fraction: a zero only alone. -/
def isWhole : List Char → Bool
  | [] => false
  | ['0'] => true
  | '0' :: _ => false
  | cs => cs.all Char.isDigit

def isDigits (cs : List Char) : Bool := cs != [] && cs.all Char.isDigit

/-- Whether a text is the part of a number after its exponent sign. -/
def isExponent : List Char → Bool
  | '+' :: cs => isDigits cs
  | '-' :: cs => isDigits cs
  | cs => isDigits cs

/-- A text cut before its first letter `e` or `E`, and what follows that letter. -/
def cutExponent (cs : List Char) : List Char × Option (List Char) :=
  match cs.dropWhile fun c => c != 'e' && c != 'E' with
  | [] => (cs, none)
  | _ :: rest => (cs.takeWhile fun c => c != 'e' && c != 'E', some rest)

/-- A text cut before its first point, and what follows the point. -/
def cutPoint (cs : List Char) : List Char × Option (List Char) :=
  match cs.dropWhile (· != '.') with
  | [] => (cs, none)
  | _ :: rest => (cs.takeWhile (· != '.'), some rest)

def unsigned : List Char → List Char
  | '-' :: cs => cs
  | cs => cs

def isNumber (cs : List Char) : Bool :=
  let (significand, exponent) := cutExponent (unsigned cs)
  let (whole, fraction) := cutPoint significand
  isWhole whole && fraction.all isDigits && exponent.all isExponent

def ofBare? (text : List Char) : Option Json :=
  if text = ['n', 'u', 'l', 'l'] then some .null
  else if text = ['t', 'r', 'u', 'e'] then some (.bool true)
  else if text = ['f', 'a', 'l', 's', 'e'] then some (.bool false)
  else if isNumber text then some (.number text)
  else none

mutual

/-- Reads one document from the front of some tokens, nested at most as deep as the first
argument allows. -/
def value? : Nat → List Token → Option (Json × List Token)
  | 0, _ => none
  | _ + 1, .bare text :: rest => (ofBare? text).map (·, rest)
  | _ + 1, .quoted text :: rest => if isEscaped text then some (.string text, rest) else none
  | _ + 1, .openBracket :: .closeBracket :: rest => some (.array [], rest)
  | n + 1, .openBracket :: rest =>
    (items? n rest).map fun (items, rest) => (.array items, rest)
  | _ + 1, .openBrace :: .closeBrace :: rest => some (.object [], rest)
  | n + 1, .openBrace :: rest =>
    (objectMembers? n rest).map fun (members, rest) => (.object members, rest)
  | _ + 1, _ => none

/-- Reads the items of an array up to its closing bracket. -/
def items? : Nat → List Token → Option (List Json × List Token)
  | 0, _ => none
  | n + 1, tokens =>
    match value? n tokens with
    | some (j, .closeBracket :: rest) => some ([j], rest)
    | some (j, .comma :: rest) => (items? n rest).map fun (js, rest) => (j :: js, rest)
    | _ => none

/-- Reads the members of an object up to its closing brace. -/
def objectMembers? : Nat → List Token → Option (List (List Char × Json) × List Token)
  | 0, _ => none
  | n + 1, .quoted key :: .colon :: tokens =>
    if isEscaped key then
      match value? n tokens with
      | some (j, .closeBrace :: rest) => some ([(key, j)], rest)
      | some (j, .comma :: rest) =>
        (objectMembers? n rest).map fun (ms, rest) => ((key, j) :: ms, rest)
      | _ => none
    else none
  | _ + 1, _ => none

end

/-- The document that a text is, read to its end. No document is nested deeper than it has tokens,
so the bound cuts nothing off. -/
def parse? (cs : List Char) : Option Json :=
  match tokensFrom .between cs with
  | none => none
  | some tokens =>
    match value? (2 * tokens.length + 1) tokens with
    | some (j, []) => some j
    | _ => none

def parseString? (s : String) : Option Json := parse? s.toList

end Stylesheet.Json
