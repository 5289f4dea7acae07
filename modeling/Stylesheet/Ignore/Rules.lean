import Stylesheet.Ignore.Expression
import Stylesheet.Ignore.GlobText
import Stylesheet.IoError
import Stylesheet.Path.Basic
import Stylesheet.Text.Blank
import Stylesheet.Text.Lines

set_option autoImplicit false

/-! # Ignore rules

A file of ignore rules has one rule a line. A rule is a glob for paths below the directory of
the file. It ignores what it matches or, after `!`, keeps it; with a separator at its end it
is for directories alone, and without any other separator it holds at every depth. The last
rule that matches decides. Lines that are no globs are left out and told about, and a glob that
cannot be looked for takes all rules of its file with it.
-/

namespace Stylesheet.Ignore

inductive Verdict
  | ignored
  | kept
deriving DecidableEq, Repr

/-- One line of a file of ignore rules. -/
structure Rule where
  glob : List Token
  keeps : Bool
  onlyDirectories : Bool
deriving Repr

inductive LineError
  | badGlob (line : String) (cause : GlobError)
  | unreadable
deriving DecidableEq, Repr

def LineError.message : LineError → String
  | badGlob line cause => "error parsing glob '" ++ line ++ "': " ++ cause.message
  | unreadable => "stream did not contain valid UTF-8"

inductive Problem
  /-- A line, counted from one, was left out of a file. -/
  | badLine (file : Path) (line : Nat) (cause : LineError)
  | refused (cause : Refusal)
  /-- A file that tells where a repository lies could not be read. -/
  | unreadable (file : Path) (cause : IoErrorKind)
deriving DecidableEq, Repr

def Problem.message : Problem → String
  | badLine file line cause =>
    file.display ++ ": line " ++ toString line ++ ": " ++ cause.message
  | refused cause => cause.message
  | unreadable file cause => file.display ++ ": " ++ cause.message

/-! ## Reading rules -/

/-- A line without the blanks at its end, unless the last one is escaped. -/
def trimRule (line : List Char) : List Char :=
  if [' ', '\\'].isPrefixOf line.reverse then line else Text.dropEndWhile Text.isBlank line

/-- The glob of a rule, so that one for a single name holds at every depth and one that ends
in two stars does not match the directory itself. -/
def fullGlob (isAnchored : Bool) (glob : List Char) : List Char :=
  let anywhere := ['*', '*', '/']
  let glob :=
    if isAnchored || glob.contains '/' || glob == ['*', '*'] then glob else anywhere ++ glob
  if ['*', '*', '/'].isPrefixOf glob.reverse then glob ++ ['/', '*'] else glob

/-- A rule's text without what makes it one for directories alone. -/
def dropSlash (text : List Char) : List Char × Bool :=
  match text.reverse with
  | '/' :: '\\' :: rest => (rest.reverse, true)
  | '/' :: rest => (rest.reverse, true)
  | _ => (text, false)

/-- The rule of a line without its mark. -/
def ruleOf (keeps : Bool) (isAnchored : Bool) (text : List Char) : Except GlobError Rule :=
  let (glob, onlyDirectories) := dropSlash text
  (parseGlob (fullGlob isAnchored glob)).map fun glob => { glob, keeps, onlyDirectories }

/-- The rule of a line that does not start with an escape. -/
def ruleAfterMark (keeps : Bool) : List Char → Except GlobError Rule
  | '/' :: text => ruleOf keeps true text
  | text => ruleOf keeps false text

/-- The rule of a line; comments and empty lines have none. -/
def ruleOfLine (line : List Char) : Except GlobError (Option Rule) :=
  if line.head? = some '#' then .ok none
  else match trimRule line with
    | [] => .ok none
    | '\\' :: '!' :: text => (ruleOf false false ('!' :: text)).map some
    | '\\' :: '#' :: text => (ruleOf false false ('#' :: text)).map some
    | '!' :: text => (ruleAfterMark true text).map some
    | text => (ruleAfterMark false text).map some

/-- Rules in order, and what went wrong with which line. -/
structure Reading where
  rules : List Rule := []
  problems : List (Nat × LineError) := []

def byteOrderMark : Char := '\ufeff'

/-- Reads lines, the first of which is line `k`, up to one that is not text. -/
def readLines (k : Nat) : List (List UInt8) → Reading
  | [] => {}
  | bytes :: rest =>
    if Utf8.isValid bytes then
      let text := (Utf8.toStringLossy bytes).toList
      let line := if k = 1 then text.dropWhile (· == byteOrderMark) else text
      let others := readLines (k + 1) rest
      match ruleOfLine line with
      | .ok none => others
      | .ok (some r) => { others with rules := r :: others.rules }
      | .error e =>
        { others with
          problems := (k, .badGlob (String.ofList (trimRule line)) e) :: others.problems }
    else { problems := [(k, .unreadable)] }

def readRules (bytes : List UInt8) : Reading := readLines 1 (Text.linesBy 0x0A 0x0D bytes)

def Reading.refusal? (r : Reading) : Option Refusal := Ignore.refusal? (r.rules.map Rule.glob)

/-- The rules that count: none if one of them cannot be looked for. -/
def Reading.rulesInForce (r : Reading) : List Rule :=
  if r.refusal?.isSome then [] else r.rules

/-- The problems worth telling: a file that merely stops being text is none. -/
def Reading.problemsIn (r : Reading) (file : Path) : List Problem :=
  (match r.problems with
    | [(_, .unreadable)] => []
    | ps => ps.map fun (line, cause) => .badLine file line cause)
  ++ (r.refusal?.map Problem.refused).toList

/-! ## What rules say -/

def relativeText (names : List Name) : List UInt8 := Text.join slash names

def Rule.applies (r : Rule) (names : List Name) (isDirectory : Bool) : Bool :=
  (isDirectory || !r.onlyDirectories) && matchesGlob r.glob (relativeText names)

def Rule.verdict (r : Rule) : Verdict := if r.keeps then .kept else .ignored

/-- What rules say of a path: the last of them that is for it decides. -/
def verdict? (rules : List Rule) (names : List Name) (isDirectory : Bool) : Option Verdict :=
  (rules.reverse.find? (·.applies names isDirectory)).map Rule.verdict

end Stylesheet.Ignore
