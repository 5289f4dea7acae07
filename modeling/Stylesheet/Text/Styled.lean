import Stylesheet.Text.Split

set_option autoImplicit false

/-! # Styled text

A text for a terminal is a list of segments, some of them with a style. With colours, a
styled segment stands between the escape sequence that begins its style and the one that
ends all styles; without, its text is left alone.
-/

namespace Stylesheet.Text

inductive Colour
  | red
  | green
  | yellow
  | blue
  | cyan
  | brightBlue
deriving DecidableEq, Repr

def Colour.code : Colour → String
  | red => "31"
  | green => "32"
  | yellow => "33"
  | blue => "34"
  | cyan => "36"
  | brightBlue => "94"

inductive Style
  | bold
  | dimmed
  | colour (c : Colour)
  | boldColour (c : Colour)
deriving DecidableEq, Repr

def Style.code : Style → String
  | bold => "1"
  | dimmed => "2"
  | colour c => c.code
  | boldColour c => "1;" ++ c.code

def escapeSequence (code : String) : List Char := '\x1b' :: '[' :: code.toList ++ ['m']

def reset : List Char := escapeSequence "0"

inductive Segment
  | plain (text : String)
  | styled (style : Style) (text : String)
deriving DecidableEq, Repr

namespace Segment

def text : Segment → List Char
  | plain t => t.toList
  | styled _ t => t.toList

/-- A segment with its style. Where its own text ends all styles, the style begins again. -/
def inColour : Segment → List Char
  | plain t => t.toList
  | styled s t =>
    let start := escapeSequence s.code
    start ++ replaceAll reset (reset ++ start) t.toList ++ reset

end Segment

/-- Segments as text, with or without colours. -/
def renderSegments (colours : Bool) (segments : List Segment) : List Char :=
  segments.flatMap fun s => if colours then s.inColour else s.text

def renderLines (colours : Bool) (lines : List (List Segment)) : List Char :=
  lines.flatMap fun l => renderSegments colours l ++ ['\n']

end Stylesheet.Text
