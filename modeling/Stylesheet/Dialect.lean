import Stylesheet.Path.Basic

set_option autoImplicit false

/-! # Dialects

A stylesheet is written with braces, by indentation, or in plain CSS. Its file name's
extension alone tells which, in lower case; any other extension, or none, means braces.
-/

namespace Stylesheet

/-- The language of a stylesheet, told by its extension alone. -/
inductive Dialect
  /-- With braces and semicolons. -/
  | scss
  /-- By indentation, a statement a line. -/
  | indented
  /-- Plain CSS, which is not compiled. -/
  | css
deriving DecidableEq, Repr

namespace Dialect

def scssExtension : Name := Name.ofString "scss"

def sassExtension : Name := Name.ofString "sass"

def cssExtension : Name := Name.ofString "css"

def ofExtension (e : Name) : Dialect :=
  if e = sassExtension then .indented else if e = cssExtension then .css else .scss

def ofPath (p : Path) : Dialect :=
  match p.extension? with
  | some e => ofExtension e
  | none => .scss

def word : Dialect → String
  | scss => "scss"
  | indented => "indented"
  | css => "css"

end Dialect

end Stylesheet
