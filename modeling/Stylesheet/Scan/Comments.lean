set_option autoImplicit false

/-! # Comments

`stripComments` leaves the comments of a stylesheet out. It reads one character at a time
and knows whether it stands in a string: there, a comment's opening is text, a backslash
takes the next character along, and the string ends at its quote or at the end of the line.
The line ends of a comment stay, so that line numbers and statements by indentation keep.

A slash is held back until the next character shows whether it opens a comment
(`CommentState.slash`). That a text read in two parts is read the same as in one
(`strip_append`) is what all reasoning about the scanner starts from.
-/

namespace Stylesheet.Scan

/-- Whether a character opens a string. -/
def isQuote (c : Char) : Bool := c == '"' || c == '\''

/-- Where a reader of a stylesheet stands. It holds back a slash until the next character tells
whether a comment begins. -/
inductive CommentState
  /-- Outside strings and comments. -/
  | plain
  /-- Outside strings and comments, after a slash that is held back. -/
  | slash
  /-- In a string that the given quote ends. -/
  | quoted (quote : Char)
  /-- In a string, after a backslash. -/
  | escaped (quote : Char)
  /-- In a comment that the end of the line ends. -/
  | lineComment
  /-- In a comment that a star and a slash end; the flag tells whether the star came last. -/
  | blockComment (afterStar : Bool)
deriving DecidableEq, Repr

namespace CommentState

/-- The state after a character outside strings and comments that opens no comment. -/
def afterPlain (c : Char) : CommentState := if isQuote c then quoted c else plain

def next : CommentState → Char → CommentState
  | plain, c => if c = '/' then slash else afterPlain c
  | slash, c =>
    if c = '/' then lineComment else if c = '*' then blockComment false else afterPlain c
  | quoted q, c => if c = '\\' then escaped q else if c = q ∨ c = '\n' then plain else quoted q
  | escaped q, _ => quoted q
  | lineComment, c => if c = '\n' then plain else lineComment
  | blockComment afterStar, c =>
    if afterStar && c = '/' then plain else blockComment (c = '*')

/-- What one more character lets through. -/
def emits : CommentState → Char → List Char
  | plain, c => if c = '/' then [] else [c]
  | slash, c => if c = '/' ∨ c = '*' then [] else ['/', c]
  | quoted _, c => [c]
  | escaped _, c => [c]
  | lineComment, c => if c = '\n' then ['\n'] else []
  | blockComment _, c => if c = '\n' then ['\n'] else []

def atEnd : CommentState → List Char
  | slash => ['/']
  | _ => []

def after (s : CommentState) (cs : List Char) : CommentState := cs.foldl next s

/-- What a text lets through before its end. -/
def output : CommentState → List Char → List Char
  | _, [] => []
  | s, c :: cs => s.emits c ++ output (s.next c) cs

@[simp] theorem after_nil (s : CommentState) : s.after [] = s := rfl

@[simp] theorem after_cons (s : CommentState) (c : Char) (cs : List Char) :
    s.after (c :: cs) = (s.next c).after cs := rfl

theorem after_append (s : CommentState) (as bs : List Char) :
    s.after (as ++ bs) = (s.after as).after bs := by
  simp [after]

theorem output_append (s : CommentState) (as bs : List Char) :
    s.output (as ++ bs) = s.output as ++ (s.after as).output bs := by
  induction as generalizing s with
  | nil => rfl
  | cons a as ih => simp [output, ih]

end CommentState

/-- A text without comments, read from a given state. -/
def strip (s : CommentState) (cs : List Char) : List Char := s.output cs ++ (s.after cs).atEnd

/-- A stylesheet without its comments. Line comments keep their line end, and strings keep what
looks like a comment. -/
def stripComments (cs : List Char) : List Char := strip .plain cs

/-- A text read in two parts. -/
theorem strip_append (s : CommentState) (as bs : List Char) :
    strip s (as ++ bs) = s.output as ++ strip (s.after as) bs := by
  simp [strip, CommentState.output_append, CommentState.after_append]

theorem strip_cons (s : CommentState) (c : Char) (cs : List Char) :
    strip s (c :: cs) = s.emits c ++ strip (s.next c) cs := by
  simp [strip, CommentState.output]

end Stylesheet.Scan
