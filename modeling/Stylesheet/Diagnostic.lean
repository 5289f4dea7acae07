import Stylesheet.Path.Basic
import Stylesheet.Url.Basic

set_option autoImplicit false

/-! # Diagnostics

While it works, a compiler reports warnings and debug messages, each with a place in a
stylesheet if it has one. `Warning` is what is told about a warning afterwards: a message, or
a message located in a file, its lines counted from one.
-/

namespace Stylesheet

/-- A place in a stylesheet. Lines and columns are counted from zero. -/
structure Span where
  url : Option Url
  line : Nat
  column : Nat
  context : String
deriving DecidableEq, Repr

inductive Diagnostic
  | warning (message : String) (span : Option Span) (deprecation : Bool) (stack : Option String)
  | debug (message : String) (span : Option Span)
deriving DecidableEq, Repr

def Diagnostic.isWarning : Diagnostic → Bool
  | warning .. => true
  | debug .. => false

structure LocatedWarning where
  text : String
  file : Path
  /-- Counted from one. -/
  line : Nat
  /-- Counted from zero. -/
  column : Nat
  lineText : String
  deprecation : Bool
  /-- The chain of imports that led there. -/
  stack : Option String
deriving DecidableEq, Repr

/-- A warning as it is told after a compile. -/
inductive Warning
  | message (text : String)
  | located (w : LocatedWarning)
deriving DecidableEq, Repr

end Stylesheet
