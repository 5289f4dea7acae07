import Stylesheet.Ignore.Glob

set_option autoImplicit false

/-! # Reading globs

A glob is read in two steps. The first tells escaped characters and bracketed sets from plain
characters; a bracket that is never closed is a plain character, and so is any after it. The
second gives plain characters their meaning: question marks, stars, and braces with commas
around alternatives, which may be nested.
-/

namespace Stylesheet.Ignore

inductive GlobError
  | invalidRange (low high : Char)
  | unopenedAlternates
  | unclosedAlternates
  | danglingEscape
deriving DecidableEq, Repr

def GlobError.message : GlobError → String
  | invalidRange low high =>
    "invalid range; '" ++ low.toString ++ "' > '" ++ high.toString ++ "'"
  | unopenedAlternates =>
    "unopened alternate group; missing '\x7b' (maybe escape '\x7d' with '[\x7d]'?)"
  | unclosedAlternates =>
    "unclosed alternate group; missing '\x7d' (maybe escape '\x7b' with '[\x7b]'?)"
  | danglingEscape => "dangling '\\'"

/-! ## Characters and sets -/

/-- A glob cut into its smallest pieces. -/
inductive Lexeme
  | plain (c : Char)
  | escaped (c : Char)
  | set (negated : Bool) (ranges : List (Char × Char))
  /-- The place where a text stops being a glob. -/
  | broken (e : GlobError)
deriving Repr

structure OpenSet where
  negated : Bool
  /-- The ranges so far, the last one first. -/
  ranges : List (Char × Char) := []
  isFirst : Bool := true
  /-- Whether a hyphen waits for the end of its range. -/
  inRange : Bool := false

namespace OpenSet

def add (s : OpenSet) (c : Char) : Except GlobError OpenSet :=
  match s.inRange, s.ranges with
  | true, (low, _) :: rest =>
    if c < low then .error (.invalidRange low c)
    else .ok { s with ranges := (low, c) :: rest, isFirst := false, inRange := false }
  | _, ranges => .ok { s with ranges := (c, c) :: ranges, isFirst := false, inRange := false }

/-- A set after one character that does not close it. A hyphen between two characters makes a range
of them. -/
def read (s : OpenSet) (c : Char) : Except GlobError OpenSet :=
  if c = '-' ∧ ¬s.isFirst ∧ ¬s.inRange then .ok { s with inRange := true } else s.add c

/-- The finished set; a hyphen that still waits stands for itself. -/
def close (s : OpenSet) : Lexeme :=
  .set s.negated (if s.inRange then ('-', '-') :: s.ranges else s.ranges).reverse

def closes (s : OpenSet) (c : Char) : Bool := c == ']' && !s.isFirst

/-- Whether a set is closed in a text, or broken before. -/
def ends (s : OpenSet) : List Char → Bool
  | [] => false
  | c :: cs =>
    s.closes c ||
      match s.read c with
      | .ok s => s.ends cs
      | .error _ => true

end OpenSet

/-- The lexemes of a text, read inside a set or outside of one. Once a bracket was found not
to be closed, no bracket opens a set. -/
def lexemes : Option OpenSet → Bool → List Char → List Lexeme
  | some s, u, c :: cs =>
    if s.closes c then s.close :: lexemes none u cs
    else match s.read c with
      | .ok s => lexemes (some s) u cs
      | .error e => [.broken e]
  | some s, _, [] => [s.close]
  | none, _, [] => []
  | none, _, ['\\'] => [.broken .danglingEscape]
  | none, u, '\\' :: c :: cs => .escaped c :: lexemes none u cs
  -- A bracket opens a set only if the set is closed further on.
  | none, false, '[' :: '!' :: cs =>
    if OpenSet.ends { negated := true } cs then lexemes (some { negated := true }) false cs
    else .plain '[' :: .plain '!' :: lexemes none true cs
  | none, false, '[' :: '^' :: cs =>
    if OpenSet.ends { negated := true } cs then lexemes (some { negated := true }) false cs
    else .plain '[' :: .plain '^' :: lexemes none true cs
  | none, false, '[' :: cs =>
    if OpenSet.ends { negated := false } cs then lexemes (some { negated := false }) false cs
    else .plain '[' :: lexemes none true cs
  | none, u, c :: cs => .plain c :: lexemes none u cs

/-! ## Stars and alternatives -/

structure OpenGroup where
  /-- What stands before the group, the last part first. -/
  before : List Token
  /-- The finished branches, the last one first. -/
  branches : List (List Token) := []

structure GlobState where
  previous : Option Char := none
  /-- The parts of the current branch, the last one first. -/
  parts : List Token := []
  /-- The open groups, the innermost first. -/
  groups : List OpenGroup := []

namespace GlobState

def push (s : GlobState) (c : Char) (t : Token) : GlobState :=
  { s with previous := some c, parts := t :: s.parts }

/-- Two stars that mean no more than one. -/
def pushStars (s : GlobState) : GlobState := (s.push '*' .anyPart).push '*' .anyPart

/-- Whether two stars after what was read may cross separators. -/
def mayCross (s : GlobState) : Bool :=
  s.previous == some '/'
    || (!s.groups.isEmpty && (s.previous == some ',' || s.previous == some '\x7b'))

/-- A glob in which a double star takes the place of the separator before it. -/
def pushCrossing (s : GlobState) (t : Token) : GlobState :=
  match s.parts with
  | .leading :: _ => { s with previous := some '*' }
  | .trailing :: _ => { s with previous := some '*' }
  | _ :: parts => { s with previous := some '*', parts := t :: parts }
  | [] => { s with previous := some '*' }

def openGroup (s : GlobState) : GlobState :=
  { previous := some '\x7b', parts := [], groups := { before := s.parts } :: s.groups }

/-- Ends a branch; outside of groups a comma is a character. -/
def comma (s : GlobState) : GlobState :=
  match s.groups with
  | [] => s.push ',' (.literal ',')
  | g :: gs =>
    { previous := some ',', parts := [],
      groups := { g with branches := s.parts.reverse :: g.branches } :: gs }

def closeGroup (s : GlobState) : Except GlobError GlobState :=
  match s.groups with
  | [] => .error .unopenedAlternates
  | g :: gs =>
    .ok { previous := some '\x7d', groups := gs,
          parts := .oneOf (s.parts.reverse :: g.branches).reverse :: g.before }

/-- Whether a lexeme ends a branch of an open group. -/
def endsBranch (s : GlobState) (l : Lexeme) : Bool :=
  match l with
  | .plain c => !s.groups.isEmpty && (c == ',' || c == '\x7d')
  | _ => false

end GlobState

/-- Reads what lexemes mean after what was read before. -/
def tokensFrom (s : GlobState) : List Lexeme → Except GlobError (List Token)
  | [] => if s.groups.isEmpty then .ok s.parts.reverse else .error .unclosedAlternates
  | .broken e :: _ => .error e
  | .escaped c :: ls => tokensFrom (s.push c (.literal c)) ls
  | .set negated ranges :: ls => tokensFrom (s.push ']' (.set negated ranges)) ls
  | .plain '?' :: ls => tokensFrom (s.push '?' .anyByte) ls
  | .plain '\x7b' :: ls => tokensFrom s.openGroup ls
  | .plain ',' :: ls => tokensFrom s.comma ls
  | .plain '\x7d' :: ls =>
    match s.closeGroup with
    | .ok s => tokensFrom s ls
    | .error e => .error e
  -- Two stars cross separators only where a name could start.
  | .plain '*' :: .plain '*' :: .plain '/' :: ls =>
    if s.parts.isEmpty then
      tokensFrom { s.push '*' .leading with previous := some '/' } ls
    else if s.mayCross then
      tokensFrom { s.pushCrossing .between with previous := some '/' } ls
    else tokensFrom (s.pushStars.push '/' (.literal '/')) ls
  -- At the end two stars stand for whatever lies below.
  | [.plain '*', .plain '*'] =>
    if s.parts.isEmpty then tokensFrom (s.push '*' .leading) []
    else if s.mayCross then tokensFrom (s.pushCrossing .trailing) []
    else tokensFrom s.pushStars []
  -- The end of a branch is an end too, but at its start two stars are two stars.
  | .plain '*' :: .plain '*' :: l :: ls =>
    if !s.parts.isEmpty && s.mayCross && s.endsBranch l then
      tokensFrom (s.pushCrossing .trailing) (l :: ls)
    else tokensFrom s.pushStars (l :: ls)
  | .plain '*' :: ls => tokensFrom (s.push '*' .anyPart) ls
  | .plain c :: ls => tokensFrom (s.push c (.literal c)) ls

def parseGlob (text : List Char) : Except GlobError (List Token) :=
  tokensFrom {} (lexemes none false text)

end Stylesheet.Ignore
