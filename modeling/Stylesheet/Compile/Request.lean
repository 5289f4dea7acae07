import Stylesheet.Dialect
import Stylesheet.Json.Basic
import Stylesheet.Url.Basic

set_option autoImplicit false

/-! # Requests to a compiler

What a stylesheet compiler is asked to do: the source of the entry with its dialect and URL,
whether a source map is wanted, and options that only the compiler understands.
-/

namespace Stylesheet

structure CompileRequest where
  source : String
  dialect : Dialect
  url : Url
  wantsMap : Bool
  /-- Options for the compiler, each key once. -/
  options : List (String × Json)

end Stylesheet
