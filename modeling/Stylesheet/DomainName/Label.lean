import Stylesheet.DomainName.Direction
import Stylesheet.DomainName.Joining
import Stylesheet.DomainName.Punycode
import Stylesheet.DomainName.Replacement
import Stylesheet.Text.Composed

set_option autoImplicit false

/-! # Labels of domain names

A domain name is a row of labels between dots. It may be given with characters of all
scripts; `ascii?` finds what they stand for, checks that labels can be told apart by whoever
sees them, and writes those outside ASCII in Punycode. A label that is given in Punycode is
read and held to the same rules.
-/

namespace Stylesheet.DomainName

/-- What stands in front of a label in Punycode. -/
def encodedMark : List Char := "xn--".toList

def maxLabel : Nat := 1000

/-- The length that no label in Punycode exceeds, its mark aside. -/
def maxEncoded : Nat := 2000

def isAscii (cs : List Char) : Bool := cs.all (·.toNat < 0x80)

/-- What the characters of a name stand for, in composed form. -/
def meaningOf? (cs : List Char) : Option (List Char) :=
  (cs.mapM meaning?).map fun meanings => Text.composed meanings.flatten

/-- Whether a text of characters that stand for themselves may be a label. -/
def isLabel (label : List Char) : Bool :=
  !(label.any isSign) && !(label.head?.any isMark) && joinersMayStand [] label
    && (isAscii label || label.length ≤ maxLabel)

def decodedLabel? (encoded : List Char) : Option (List Char) :=
  if encoded = [] || encoded.getLast? = some '-' || maxEncoded < encoded.length
      || !isAscii encoded then
    none
  else
    match Punycode.decode? encoded with
    | some label =>
      if label.all isPlain && Text.composed label == label && isLabel label then some label
      else none
    | none => none

/-- The label that a text is, read if it is in Punycode. -/
def label? (text : List Char) : Option (List Char) :=
  match Text.after? encodedMark text with
  | some encoded => decodedLabel? encoded
  | none => if isLabel text then some text else none

def labels? (name : List Char) : Option (List (List Char)) := do
  let meaning ← meaningOf? name
  let labels ← (Text.pieces (· == '.') meaning).mapM label?
  if areOneWay labels then some labels else none

def asciiLabel (label : List Char) : List Char :=
  if isAscii label then label else encodedMark ++ Punycode.encode label

def ascii? (name : List Char) : Option (List (List Char)) :=
  (labels? name).map (·.map asciiLabel)

end Stylesheet.DomainName
