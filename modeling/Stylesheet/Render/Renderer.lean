import Stylesheet.Compile.Compiler
import Stylesheet.Render.Warnings
import Stylesheet.SourceMap.Located

set_option autoImplicit false

/-! # Rendering

A renderer makes CSS of one entry at a time. Plain CSS is taken as it is; any other entry is
read through the preprocess hook and handed to the compiler. If source maps are wanted, the
compiler's map has its sources named from the entry's directory and goes into a comment at the
end of the CSS.
-/

namespace Stylesheet

structure RenderResult where
  css : String
  /-- The files that took part, the entry first. -/
  watchFiles : List Path
  warnings : List Warning
  sourceMap : Option SourceMap
deriving DecidableEq, Repr

/-- Everything that renders share: the settings, the compiler and the file system. No render changes
any of it. -/
structure Renderer where
  config : Config
  compiler : Compiler
  fs : FileSystem

namespace Renderer

/-- Paths with each one listed once, at its first place. -/
def distinct (ps : List Path) : List Path :=
  ps.foldl (fun seen p => if seen.any (·.same p) then seen else seen ++ [p]) []

/-- The entry and then the files among the URLs that were loaded, each at its first place. URLs that
name no file are passed over. -/
def watchFiles (entry : Path) (loaded : List Url) : List Path :=
  distinct (entry :: loaded.filterMap Url.toFilePath?)

/-- A text with a line feed at its end; nothing stays nothing. -/
def endLine (css : String) : String :=
  if css = "" ∨ css.toList.getLast? = some '\n' then css else css ++ "\n"

/-- A stylesheet with the map inlined at its end, if there is one. -/
def withMap (css : String) : Option SourceMap → String
  | some m => endLine css ++ m.inlineComment
  | none => css

/-- What the compiler's output for `entry` is made into, when told about its diagnostics. -/
def finish (c : Config) (entry : Path) (output : CompileOutput) (events : List Event) :
    RenderResult :=
  let sourceMap := if c.sourceMap then output.sourceMap.map (·.forEntry entry) else none
  { css := withMap output.css sourceMap
    watchFiles := watchFiles entry output.loaded
    warnings := collectWarnings entry events
    sourceMap }

def renderPlain (r : Renderer) (entry : Path) : Except Failure RenderResult :=
  match r.fs.read entry with
  | .error cause => .error (.unreadable entry cause)
  | .ok css => .ok { css, watchFiles := [entry], warnings := [], sourceMap := none }

def importer (r : Renderer) (entry : Path) : Importer :=
  { config := r.config, fs := r.fs, entryDir := entry.parentOrSelf }

/-- Asks the compiler and passes its diagnostics on. -/
def compile (r : Renderer) (entry : Path) (request : CompileRequest) :
    Traced (Except Failure RenderResult) := do
  Traced.emit (.compiled request)
  -- The listener hears each diagnostic at once, the result tells warnings at the end.
  let answer := (r.compiler request (r.importer entry)).heardBy r.config.listener
  let output ← answer
  return output.map fun o => finish r.config entry o answer.events

/-- Makes CSS of an entry. Plain CSS is taken as it is, without the compiler and the hooks, and
everything else is compiled. -/
def render (r : Renderer) (entry : Path) : Traced (Except Failure RenderResult) :=
  let dialect := Dialect.ofPath entry
  if dialect = .css then return r.renderPlain entry
  else
    match Url.ofFilePath? entry with
    | none => return .error (.entryNotAbsolute entry)
    | some url => do
      match ← (r.importer entry).readSource entry true with
      | .error e => return .error e
      | .ok source =>
        r.compile entry
          { source, dialect, url, wantsMap := r.config.sourceMap, options := r.config.options }

end Renderer

end Stylesheet
