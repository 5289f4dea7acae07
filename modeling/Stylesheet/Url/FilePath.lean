import Stylesheet.Path.Basic
import Stylesheet.Url.Parser

set_option autoImplicit false

/-! # URLs of files

`Url.ofFilePath?` writes an absolute path as a `file` URL, one segment for each component;
`Url.toFilePath?` reads a path off any URL that has segments and no host but the machine
itself, whatever its scheme.
-/

namespace Stylesheet.Url

/-- Encoded in a path segment that spells a name: the percent sign too, and whatever would
end the segment. -/
def nameSet : Percent.EncodeSet := pathSet.adding "/%\\"

def segmentOf (c : Component) : List Char := Percent.encode nameSet c.path.bytes

/-- The `file` URL of an absolute path; a relative path has none. -/
def ofFilePath? (p : Path) : Option Url :=
  if p.isAbsolute then
    let segments := (p.components.drop 1).map segmentOf
    some
      { scheme := "file".toList, authority := some noHost,
        path := .segments (if segments = [] then [[]] else segments),
        query := none, fragment := none }
  else none

/-- Whether the URL names no host, or the machine itself. -/
def isLocal (u : Url) : Bool :=
  match u.authority with
  | none => true
  | some a => a.host = .domain [] || a.host = .domain "localhost".toList

/-- Whether a path ends in a drive, which is written with a separator after it. -/
def endsInDrive (bytes : List UInt8) : Bool :=
  match bytes.reverse with
  | d :: c :: _ :: _ => (d == 0x3A || d == 0x7C) && (Percent.asciiChar c).isAlpha
  | _ => false

/-- The path of the file that the URL names: its decoded segments, if it has segments and no foreign
host. The scheme is not looked at. -/
def toFilePath? (u : Url) : Option Path :=
  match u.path with
  | .text _ => none
  | .segments [] => none
  | .segments ss =>
    if u.isLocal then
      let bytes := ss.flatMap fun s => Path.separator :: Percent.decodeChars s
      some ⟨if endsInDrive bytes then bytes ++ [Path.separator] else bytes⟩
    else none

end Stylesheet.Url
