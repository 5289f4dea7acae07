import Stylesheet.Importer.Basic
import Stylesheet.SourceMap.Basic

set_option autoImplicit false

/-! # Compilers

A compiler is any function that turns a request into a stylesheet. It finds imports through
the importer that it is given, and what it has to say on the way it says by letting
`Event.reported` happen.
-/

namespace Stylesheet

structure CompileOutput where
  css : String
  /-- The URLs of the stylesheets that were loaded, in order. -/
  loaded : List Url
  sourceMap : Option SourceMap
deriving DecidableEq, Repr

/-- Turns a request into a stylesheet, with an importer for what it imports. What it does on the
file system, and which diagnostics it lets be heard, is in the trace. -/
abbrev Compiler := CompileRequest → Importer → Traced (Except Failure CompileOutput)

end Stylesheet
