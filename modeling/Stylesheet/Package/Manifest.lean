import Stylesheet.Json.Parser

set_option autoImplicit false

/-! # Package manifests

A manifest may name the stylesheet that a package is imported as, in the field `sass` or,
failing that, in the field `style`. The two fields may also be given as the two items of an
array. A manifest in which either is given twice, or is no text, says nothing.
-/

namespace Stylesheet.Package

/-- The stylesheets that a manifest names. -/
structure Manifest where
  sass : Option String
  style : Option String
deriving DecidableEq, Repr

namespace Manifest

def ofJson? : Json → Option Manifest
  | .array [sass, style] => do
    let sass ← Json.nullOr? Json.string? sass
    let style ← Json.nullOr? Json.string? style
    return { sass, style }
  | j => do
    let members ← j.members?
    let sass ← Json.optional? "sass" none (Json.nullOr? Json.string?) members
    let style ← Json.optional? "style" none (Json.nullOr? Json.string?) members
    return { sass, style }

/-- The stylesheet that the package is imported as. What stands under `sass` comes before what
stands under `style`. -/
def entry? (m : Manifest) : Option String := m.sass <|> m.style

end Manifest

def manifestEntry? (text : String) : Option String :=
  Json.parseString? text >>= Manifest.ofJson? >>= Manifest.entry?

end Stylesheet.Package
