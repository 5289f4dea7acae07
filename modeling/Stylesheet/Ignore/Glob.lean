import Stylesheet.Text.Utf8

set_option autoImplicit false

/-! # Globs

A glob describes the relative paths of files. Stars and question marks stay within one name;
a double star crosses separators. A glob is matched by carrying along the places in a text
that its parts may have led to: each part takes the places in front of it to those behind it,
and a text matches if its end is among the last ones. Texts are bytes, and so are the members
of a set.
-/

namespace Stylesheet.Ignore

inductive Token
  | literal (c : Char)
  | anyByte
  /-- Any part of a name. -/
  | anyPart
  /-- Any directories at the front, or none. -/
  | leading
  /-- A separator and anything after it. -/
  | trailing
  /-- A separator, with any directories before another one. -/
  | between
  /-- A byte in one of some ranges of characters, or in none of them. -/
  | set (negated : Bool) (ranges : List (Char × Char))
  /-- One of several globs. -/
  | oneOf (branches : List (List Token))
deriving Repr

def slash : UInt8 := 0x2F

/-! ## Places -/

/-- Some of the places in a text: for each, from the front of the text to its end, whether it
is meant. -/
abbrev Places := List Bool

namespace Places

def front (bs : List UInt8) : Places := true :: bs.map fun _ => false

def nowhere (bs : List UInt8) : Places := false :: bs.map fun _ => false

/-- The places that are in either of two collections. -/
def either (hs ks : Places) : Places := List.zipWith (· || ·) hs ks

def reachEnd (hs : Places) : Bool := hs.getLast? == some true

end Places

/-- The places behind one byte with a property. -/
def one (p : UInt8 → Bool) (bs : List UInt8) (hs : Places) : Places :=
  false :: List.zipWith (fun b h => h && p b) bs hs

/-- The places behind any number of bytes with a property; `carried` tells whether the first
place can be reached from the left. -/
def many (p : UInt8 → Bool) (carried : Bool) : List UInt8 → Places → Places
  | _, [] => []
  | [], h :: _ => [h || carried]
  | b :: bs, h :: hs => (h || carried) :: many p ((h || carried) && p b) bs hs

/-- The places behind a word. -/
def word (w : List UInt8) (bs : List UInt8) (hs : Places) : Places :=
  w.foldl (fun hs c => one (· == c) bs hs) hs

def isSlash (b : UInt8) : Bool := b == slash

/-- The places behind any directories, or none. -/
def directories (bs : List UInt8) (hs : Places) : Places :=
  hs.either (one isSlash bs (many (fun _ => true) false bs hs))

/-- Whether a byte lies in a range of characters. Characters of several bytes stand side by
side in a set, so that a range leads from the last byte of one to the first of the other. -/
def inRange (b : UInt8) (range : Char × Char) : Bool :=
  let low := String.utf8EncodeChar range.1
  let high := String.utf8EncodeChar range.2
  if range.1 = range.2 then low.contains b
  else low.dropLast.contains b || (high.drop 1).contains b
    || (low.getLast?.getD 0 ≤ b && b ≤ high.head?.getD 0)

namespace Token

mutual

/-- Whether a part of a glob matches nothing but the empty text because it holds nothing. -/
def isHollow : Token → Bool
  | oneOf branches => areHollow branches
  | _ => false

def isHollowGlob : List Token → Bool
  | [] => true
  | t :: ts => isHollow t && isHollowGlob ts

def areHollow : List (List Token) → Bool
  | [] => true
  | g :: gs => isHollowGlob g && areHollow gs

end

mutual

/-- The places behind a part of a glob, from those in front of it. Branches that hold nothing
do not count, unless there are no others. -/
def advance : Token → List UInt8 → Places → Places
  | literal c, bs, hs => word (String.utf8EncodeChar c) bs hs
  | anyByte, bs, hs => one (!isSlash ·) bs hs
  | anyPart, bs, hs => many (!isSlash ·) false bs hs
  | leading, bs, hs => directories bs hs
  | trailing, bs, hs => many (fun _ => true) false bs (one isSlash bs hs)
  | between, bs, hs => directories bs (one isSlash bs hs)
  | set negated ranges, bs, hs => one (fun b => ranges.any (inRange b) != negated) bs hs
  | oneOf branches, bs, hs => if areHollow branches then hs else advanceBranches branches bs hs

/-- The places behind the parts of a glob, one after the other. -/
def advanceGlob : List Token → List UInt8 → Places → Places
  | [], _, hs => hs
  | t :: ts, bs, hs => advanceGlob ts bs (advance t bs hs)

def advanceBranches : List (List Token) → List UInt8 → Places → Places
  | [], bs, _ => Places.nowhere bs
  | g :: gs, bs, hs =>
    if isHollowGlob g then advanceBranches gs bs hs
    else (advanceGlob g bs hs).either (advanceBranches gs bs hs)

end

end Token

/-- Whether a glob is nothing but any directories, and so matches everything. -/
def isEverything : List Token → Bool
  | [.leading] => true
  | _ => false

/-- Whether a glob matches all of a text. All places are carried along at once, so that no choice is
ever taken back. -/
def matchesGlob (glob : List Token) (text : List UInt8) : Bool :=
  isEverything glob || (Token.advanceGlob glob text (Places.front text)).reachEnd

end Stylesheet.Ignore
