import Stylesheet.Compile.Compiler
import Stylesheet.Text.Blank
import Stylesheet.Text.Lines

set_option autoImplicit false

/-! # A compiler of lines

The least compiler that goes through every service of an importer: it copies lines, and
expands those that hold one directive with a quoted argument, such as `@import "a";`.
Imports are expanded in place, at most thirty deep.
-/

namespace Stylesheet

inductive Line
  /-- Imports as the entry would. -/
  | importTop (specifier : String)
  /-- Imports as the stylesheet does in which the line stands. -/
  | importHere (specifier : String)
  /-- Copies what a URL holds. -/
  | load (url : String)
  /-- Counts a URL as loaded. -/
  | watch (url : String)
  | warn (message : String)
  | deprecated (message : String)
  | note (message : String)
  | debug (message : String)
  | fail (message : String)
  | copy (text : String)
  | empty
deriving DecidableEq, Repr

namespace Line

/-- The argument of a line that consists of the directive `word`, a quoted text and a semicolon. -/
def argument? (word : List Char) (line : List Char) : Option (List Char) := do
  let afterWord ← Text.after? word line
  let afterQuote ← Text.after? ['"'] (Text.trim afterWord)
  let reversed ← Text.after? [';', '"'] afterQuote.reverse
  return reversed.reverse

def directives : List (String × (String → Line)) :=
  [("@import-top", importTop), ("@import", importHere), ("@load", load), ("@watch", watch),
    ("@warn", warn), ("@deprecated", deprecated), ("@note", note), ("@debug", debug),
    ("@error", fail)]

/-- What a text says where these directives are known, the blanks around it left aside. -/
def ofText (known : List (String × (String → Line))) (text : List Char) : Line :=
  let line := Text.trim text
  match known.findSome? fun (word, make) =>
      (argument? word.toList line).map fun a => make (String.ofList a) with
  | some l => l
  | none => if line = [] then empty else copy (String.ofList line)

end Line

/-- What a part of a stylesheet was expanded to. -/
structure Expansion where
  css : String
  /-- The URLs that were loaded on the way. -/
  loaded : List Url
deriving DecidableEq, Repr

namespace Expansion

def nothing : Expansion := ⟨"", []⟩

def append (a b : Expansion) : Expansion := ⟨a.css ++ b.css, a.loaded ++ b.loaded⟩

end Expansion

/-- What the compiler of lines puts in place of its own results. -/
structure LineCompiler where
  /-- Sources in the map besides the entry and what was loaded. -/
  extraSources : List String := []
  /-- Makes a map even if none is wanted. -/
  alwaysMap : Bool := false
  /-- Makes no map even if one is wanted. -/
  noMap : Bool := false
  /-- The map to give, if not the one made. -/
  map : Option SourceMap := none
  /-- The stylesheet to give, if not the one made. -/
  css : Option String := none

namespace LineCompiler

/-- What may fail and is traced. A failure keeps what was done before it. -/
abbrev Attempt := ExceptT Failure Traced

def attempt {α : Type} (x : Traced (Except Failure α)) : Attempt α := ExceptT.mk x

def report (d : Diagnostic) : Attempt Expansion := do
  attempt (Traced.emit (.reported d) >>= fun _ => return .ok ())
  return .nothing

/-- The number of bytes of the blanks at the front of a text. -/
def indent (text : List Char) : Nat := (Utf8.encode (text.takeWhile Text.isBlank)).length

/-- The place of the line `k` of the stylesheet at `url`. -/
def span (url : Option Url) (k : Nat) (text : List Char) : Span :=
  { url, line := k, column := indent text, context := String.ofList text }

def stack (url : Url) (k : Nat) : String :=
  url.text ++ " " ++ toString (k + 1) ++ ":1  root stylesheet"

/-- The comment on a stylesheet that has a URL for source maps. -/
def mapComment (sheet : LoadedSheet) : String :=
  match sheet.mapUrl with
  | some u => "/* " ++ sheet.dialect.word ++ " " ++ u.text ++ " */\n"
  | none => ""

/-- Expands an import; `child` expands the contents that were found, and `heading` goes before
them. -/
def expandImport (heading : LoadedSheet → String) (child : String → Url → Attempt Expansion)
    (i : Importer) (specifier : String) (containing : Option Url) : Attempt Expansion := do
  match ← attempt (i.canonicalize specifier containing) with
  | none => throw (.reported ("Can't find stylesheet to import: " ++ specifier))
  | some url =>
    match ← attempt (i.load url) with
    | none => throw (.reported ("Can't load " ++ url.text))
    | some sheet =>
      let inner ← child sheet.contents url
      return Expansion.append ⟨heading sheet, [url]⟩ inner

def parseUrl (text : String) : Attempt Url :=
  match Url.parse text with
  | .ok url => return url
  | .error e => throw (.invalidUrl e)

def expandLine (child : String → Url → Attempt Expansion) (i : Importer) (url : Url) (k : Nat)
    (text : List Char) : Attempt Expansion :=
  match Line.ofText Line.directives text with
  | .importTop specifier => expandImport mapComment child i specifier none
  | .importHere specifier => expandImport mapComment child i specifier (some url)
  | .load target => do
    match ← attempt (i.load (← parseUrl target)) with
    | none => return ⟨"/* not loaded */", []⟩
    | some sheet => return ⟨sheet.contents, []⟩
  | .watch target => do return ⟨"", [← parseUrl target]⟩
  | .warn message => report (.warning message (span (some url) k text) false (stack url k))
  | .deprecated message => report (.warning message (span none k text) true none)
  | .note message => report (.warning message none false none)
  | .debug message => report (.debug message (span (some url) k text))
  | .fail message => throw (.reported message)
  | .copy line => return ⟨line ++ "\n", []⟩
  | .empty => return .nothing

def expandLines (line : Nat → List Char → Attempt Expansion) : Nat → List (List Char) →
    Attempt Expansion
  | _, [] => return .nothing
  | k, text :: rest => do
    let first ← line k text
    return first.append (← expandLines line (k + 1) rest)

/-- Expands a stylesheet and what it imports, depth first. Imports may be nested one less deep than
`depth`. -/
def expand (i : Importer) : Nat → String → Url → Attempt Expansion
  | 0, _, url => throw (.reported ("Imports are nested too deeply: " ++ url.text))
  | depth + 1, contents, url =>
    expandLines (expandLine (expand i depth) i url) 0 (Text.lines contents.toList)

/-- How many stylesheets deep expansion goes. -/
def maxDepth : Nat := 31

/-- A map that lists the entry, the URLs that were loaded, and more sources after them. -/
def listingMap (entry : Url) (loaded : List Url) (more : List String) : SourceMap :=
  { version := 3, sourceRoot := some "",
    sources := entry.text :: loaded.map Url.text ++ more,
    mappings := "AAAA" }

def compile (c : LineCompiler) : Compiler := fun request i => do
  let expansion ← expand i maxDepth request.source request.url |>.run
  return expansion.map fun e =>
    { css := c.css.getD e.css
      loaded := e.loaded
      sourceMap :=
        if (request.wantsMap || c.alwaysMap) && !c.noMap then
          some (c.map.getD (listingMap request.url e.loaded c.extraSources))
        else none }

end LineCompiler

end Stylesheet
