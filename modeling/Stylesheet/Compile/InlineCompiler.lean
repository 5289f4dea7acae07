import Stylesheet.Compile.LineCompiler

set_option autoImplicit false

/-! # A compiler that inlines imports

The plainest compiler that reads imports at all: it puts in place of every `@import "a";` what
that stylesheet expands to, reports every `@warn "a";`, ends at an `@error "a";` and copies the
other lines. A stylesheet that is imported twice is expanded twice, and imports in a circle are
expanded for ever, so there is a result only for the depths that the imports really have.
-/

namespace Stylesheet

/-- The compiler with the sources that its maps list besides the entry and what was loaded. -/
structure InlineCompiler where
  extraSources : List String := []

namespace InlineCompiler

open LineCompiler (Attempt)

def directives : List (String × (String → Line)) :=
  [("@import", .importHere), ("@warn", .warn), ("@error", .fail)]

/-- The place of a line, the blanks around it left aside. -/
def span (url : Url) (k : Nat) (text : List Char) : Span :=
  { url := some url, line := k, column := 0, context := String.ofList (Text.trim text) }

def expandLine (child : String → Url → Attempt Expansion) (i : Importer) (url : Url) (k : Nat)
    (text : List Char) : Attempt Expansion :=
  match Line.ofText directives text with
  | .importHere specifier =>
    LineCompiler.expandImport (fun _ => "") child i specifier (some url)
  | .warn message =>
    LineCompiler.report
      (.warning message (some (span url k text)) false (some (LineCompiler.stack url k)))
  | .fail message => throw (.reported message)
  | .copy line => return ⟨line ++ "\n", []⟩
  | _ => return .nothing

/-- Expands a stylesheet in which imports are nested less deep than `depth`. -/
def expand (i : Importer) : Nat → String → Url → Attempt Expansion
  | 0, _, _ => throw .endless
  | depth + 1, contents, url =>
    LineCompiler.expandLines (expandLine (expand i depth) i url) 0 (Text.lines contents.toList)

def compile (c : InlineCompiler) (depth : Nat) : Compiler := fun request i => do
  let expansion ← expand i depth request.source request.url |>.run
  return expansion.map fun e =>
    { css := e.css
      loaded := e.loaded
      sourceMap :=
        if request.wantsMap then
          some (LineCompiler.listingMap request.url e.loaded c.extraSources)
        else none }

end InlineCompiler

end Stylesheet
