import Stylesheet.Ignore.Glob
import Stylesheet.Text.Hex
import Stylesheet.Text.Split

set_option autoImplicit false

/-! # Globs as regular expressions

A glob that is more than a word is looked for by means of a regular expression. If the glob
ends in an extension, it has an expression for itself; all others of a file share a set. An
expression whose parts lie too deep in one another is refused, and then no glob of the file
can be looked for (`refusal?`).
-/

namespace Stylesheet.Ignore

namespace Token

/-! ## Texts -/

/-- The characters that mean something in a regular expression. -/
def expressionMarks : List Char := "\\.+*?()|[]\x7b\x7d^$#&-~".toList

/-- A byte that stands for itself in a regular expression. -/
def byteText (b : UInt8) : List Char :=
  let c := Char.ofNat b.toNat
  if 0x80 ≤ b.toNat then ['\\', 'x'] ++ Hex.lowerByte b
  else if expressionMarks.contains c then ['\\', c]
  else [c]

/-- A character that stands for itself in a regular expression. -/
def literalText (c : Char) : List Char := (String.utf8EncodeChar c).flatMap byteText

def rangeText (range : Char × Char) : List Char :=
  if range.1 = range.2 then literalText range.1
  else literalText range.1 ++ '-' :: literalText range.2

mutual

/-- The regular expression of a part of a glob. -/
def expression : Token → List Char
  | literal c => literalText c
  | anyByte => "[^/]".toList
  | anyPart => "[^/]*".toList
  | leading => "(?:/?|.*/)".toList
  | trailing => "/.*".toList
  | between => "(?:/|/.*/)".toList
  | set negated ranges =>
    '[' :: (if negated then ['^'] else []) ++ ranges.flatMap rangeText ++ [']']
  | oneOf branches =>
    if areHollow branches then []
    else "(?:".toList ++ Text.join '|' (expressionsOf branches) ++ [')']

def expressionOfGlob : List Token → List Char
  | [] => []
  | t :: ts => expression t ++ expressionOfGlob ts

/-- The regular expressions of those of several globs that hold something. -/
def expressionsOf : List (List Token) → List (List Char)
  | [] => []
  | g :: gs =>
    if isHollowGlob g then expressionsOf gs else expressionOfGlob g :: expressionsOf gs

end

/-! ## Depths -/

/-- How many bytes and ranges of bytes a set lists. -/
def setSize (ranges : List (Char × Char)) : Nat :=
  (ranges.flatMap fun (low, high) =>
    if low = high then String.utf8EncodeChar low
    -- The last byte of one character and the first of the other are one range.
    else String.utf8EncodeChar low ++ (String.utf8EncodeChar high).drop 1).length

/-- How many parts of a regular expression a part of a glob puts side by side. -/
def width : Token → Nat
  | literal c => (String.utf8EncodeChar c).length
  | trailing => 2
  | oneOf branches => if areHollow branches then 0 else 1
  | _ => 1

/-- How many parts of a regular expression the parts of a glob put side by side. -/
def widthOfGlob : List Token → Nat
  | [] => 0
  | t :: ts => width t + widthOfGlob ts

/-- The depth that parts side by side add to that of the deepest. -/
def rowDepth (glob : List Token) : Nat := if widthOfGlob glob < 2 then 0 else 1

mutual

/-- How deep the parts of a part's regular expression lie in one another. -/
def depth : Token → Nat
  | literal _ => 0
  | anyByte => 1
  | anyPart => 2
  | leading => 4
  | trailing => 1
  | between => 4
  | set _ ranges => if setSize ranges < 2 then 1 else 2
  | oneOf branches =>
    if areHollow branches then 0
    else (if (branches.filter (!isHollowGlob ·)).length < 2 then 1 else 2)
      + depthOfBranches branches

def depthOfGlob : List Token → Nat
  | [] => 0
  | t :: ts => max (depth t) (depthOfGlob ts)

/-- The greatest depth among several globs, each with that of its row. -/
def depthOfBranches : List (List Token) → Nat
  | [] => 0
  | g :: gs => max (rowDepth g + depthOfGlob g) (depthOfBranches gs)

end

/-- Whether a part of a glob is a character that stands for itself. -/
def isLiteral : Token → Bool
  | literal _ => true
  | _ => false

/-- Whether a part of a glob is a character of an extension. -/
def isOfExtension : Token → Bool
  | literal c => c != '.' && c != '/'
  | _ => false

end Token

/-- The regular expression of a glob, for whole texts of bytes. -/
def expressionText (glob : List Token) : List Char :=
  let inner := if isEverything glob then ".*".toList else Token.expressionOfGlob glob
  "(?-u)^".toList ++ inner ++ ['$']

/-- The depth that no regular expression exceeds. -/
def maxDepth : Nat := 250

/-- Whether the regular expression of a glob is too deep. -/
def isTooDeep (glob : List Token) : Bool := maxDepth < Token.depthOfGlob glob + 1

inductive Search
  /-- As a word, at an end of the path or as all of it. -/
  | word
  /-- By an expression of its own, among the paths with an extension. -/
  | afterExtension
  /-- By an expression in the common set. -/
  | inSet
deriving DecidableEq, Repr

/-- Whether a glob holds nothing but characters that stand for themselves. -/
def isPlain (glob : List Token) : Bool := glob.all Token.isLiteral

/-- Whether a glob is a word, after or before any directories, or any name with one
extension. -/
def isWord (glob : List Token) : Bool :=
  match glob, glob.reverse with
  | .leading :: .anyPart :: .literal '.' :: rest, _ => rest.all Token.isOfExtension
  | .leading :: rest, _ => !rest.isEmpty && isPlain rest
  | _, .trailing :: before => isPlain before
  | _, _ => !glob.isEmpty && isPlain glob

def endsInExtension (glob : List Token) : Bool :=
  match glob.reverse.dropWhile Token.isOfExtension with
  | .literal '.' :: _ => true
  | _ => false

def searchOf (glob : List Token) : Search :=
  if isWord glob then .word else if endsInExtension glob then .afterExtension else .inSet

inductive Refusal
  /-- The expression of a glob with an extension is too deep. -/
  | tooDeep (expression : String)
  /-- An expression of the common set is too deep; they are counted from zero. -/
  | tooDeepInSet (index : Nat)
deriving DecidableEq, Repr

/-- What is told about globs that cannot be looked for. -/
def Refusal.message : Refusal → String
  | tooDeep expression => "error parsing glob '" ++ expression ++ "': error parsing pattern 0"
  | tooDeepInSet index => "error parsing pattern " ++ toString index

/-- What keeps globs from being looked for; those with an extension come first. -/
def refusal? (globs : List (List Token)) : Option Refusal :=
  match (globs.filter (searchOf · = .afterExtension)).find? isTooDeep with
  | some glob => some (.tooDeep (String.ofList (expressionText glob)))
  | none => ((globs.filter (searchOf · = .inSet)).findIdx? isTooDeep).map .tooDeepInSet

end Stylesheet.Ignore
