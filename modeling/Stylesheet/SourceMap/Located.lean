import Stylesheet.Path.Relative
import Stylesheet.SourceMap.Basic
import Stylesheet.Text.Base64
import Stylesheet.Url.FilePath

set_option autoImplicit false

/-! # Source maps for a stylesheet in its directory

A compiler names sources by URLs. `forEntry` names them by their way from the directory of
the entry, and makes that directory the root of the map. `inlineComment` carries a whole map
at the end of a stylesheet.
-/

namespace Stylesheet.SourceMap

/-- What marks a source that is spelled out in its own URL. -/
def dataMark : List Char := "data:".toList

/-- The path of a source. One that is spelled out in its URL belongs to the entry; one that
is no URL of a file is a path from the entry's directory. -/
def sourcePath (source : String) (entry : Path) : Path :=
  if dataMark.isPrefixOf source.toList then entry
  else
    match (Url.parse source).toOption >>= Url.toFilePath? with
    | some p => p
    | none => entry.parentOrSelf.join (Path.ofString source)

/-- A source by its way from the entry's directory, or by its whole path if there is none. -/
def relativeSource (source : String) (entry : Path) : String :=
  let p := sourcePath source entry
  ((p.relativeTo? entry.parentOrSelf).getD p).display

/-- The map with the entry's directory as its root and each source relative to it. Nothing else of
the map is changed. -/
def forEntry (m : SourceMap) (entry : Path) : SourceMap :=
  { m with
    sourceRoot := some entry.parentOrSelf.display
    sources := m.sources.map (relativeSource · entry) }

def commentStart : List Char :=
  "/*# sourceMappingURL=data:application/json;charset=utf-8;base64,".toList

def commentEnd : List Char := " */".toList

/-- A comment that carries the whole map, in Base64. Nothing of the alphabet ends a comment. -/
def inlineComment (m : SourceMap) : String :=
  String.ofList
    (commentStart ++ Base64.encode (Utf8.encode m.toJson.render) ++ commentEnd)

end Stylesheet.SourceMap
