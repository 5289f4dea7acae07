import Stylesheet.Json.Parser
import Stylesheet.Json.Printer

set_option autoImplicit false

/-! # Source maps

A source map (revision 3) tells from which places of which sources a stylesheet was made. It
is written as a JSON object whose members have a fixed order. When it is read their order
does not matter, members that are not known are skipped, and an array of all seven values in
that order will do as well.
-/

namespace Stylesheet

structure SourceMap where
  version : UInt32
  file : Option String := none
  /-- What the sources are relative to. -/
  sourceRoot : Option String := none
  sources : List String
  /-- The texts of the sources, as far as they are known. -/
  sourcesContent : Option (List (Option String)) := none
  names : List String := []
  mappings : String
deriving DecidableEq, Repr, Inhabited

namespace SourceMap

/-! ## Writing -/

def textsToJson (texts : List String) : Json := .array (texts.map Json.ofString)

def textOrNull : Option String → Json
  | some text => .ofString text
  | none => .null

/-- A member that is left out when there is no value. -/
def presentMember {α : Type} (key : String) (write : α → Json) :
    Option α → List (List Char × Json)
  | some a => [Json.member key (write a)]
  | none => []

def toJson (m : SourceMap) : Json :=
  .object <|
    [Json.member "version" (.ofNat m.version.toNat)]
    ++ presentMember "file" Json.ofString m.file
    ++ presentMember "sourceRoot" Json.ofString m.sourceRoot
    ++ [Json.member "sources" (textsToJson m.sources)]
    ++ presentMember "sourcesContent" (fun texts => .array (texts.map textOrNull)) m.sourcesContent
    ++ [Json.member "names" (textsToJson m.names), Json.member "mappings" (.ofString m.mappings)]

/-! ## Reading -/

def version? (j : Json) : Option UInt32 := (j.natBelow? UInt32.size).map UInt32.ofNat

def optionalText? : Json → Option (Option String) := Json.nullOr? Json.string?

def texts? : Json → Option (List String) := Json.listOf? Json.string?

/-- The texts of sources, each of which may be unknown, or `null` for all of them. -/
def contents? : Json → Option (Option (List (Option String))) :=
  Json.nullOr? (Json.listOf? optionalText?)

def ofMembers? (members : List (String × Json)) : Option SourceMap := do
  let version ← Json.required? "version" version? members
  let file ← Json.optional? "file" none optionalText? members
  let sourceRoot ← Json.optional? "sourceRoot" none optionalText? members
  let sources ← Json.required? "sources" texts? members
  let sourcesContent ← Json.optional? "sourcesContent" none contents? members
  let names ← Json.optional? "names" [] texts? members
  let mappings ← Json.required? "mappings" Json.string? members
  return { version, file, sourceRoot, sources, sourcesContent, names, mappings }

def ofJson? : Json → Option SourceMap
  | .array [version, file, sourceRoot, sources, sourcesContent, names, mappings] => do
    return {
      version := ← version? version
      file := ← optionalText? file
      sourceRoot := ← optionalText? sourceRoot
      sources := ← texts? sources
      sourcesContent := ← contents? sourcesContent
      names := ← texts? names
      mappings := ← mappings.string? }
  | .array _ => none
  | j => j.members? >>= ofMembers?

def parse? (text : List Char) : Option SourceMap := Json.parse? text >>= ofJson?

end SourceMap

end Stylesheet
