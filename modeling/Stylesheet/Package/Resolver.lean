import Stylesheet.Failure
import Stylesheet.Package.Manifest
import Stylesheet.Package.Specifier

set_option autoImplicit false

/-! # Finding packages

Packages lie in directories of agreed names, next to the stylesheets that use them or above.
The search goes from the importing directory upwards and takes the first package directory
that exists, nearest first and, in one place, in the order of the agreed names. What is meant
inside the package is not checked: a package found nearer hides one farther away.
-/

namespace Stylesheet

/-- Turns a package specifier, as seen from a directory, into a path, which may still lack an
extension. -/
abbrev PackageResolver := String → Path → Except Failure Path

namespace Package

/-- What the search for packages asks of a disk. It is no `FileSystem`, since packages are looked
for on the real disk in any case. -/
structure Disk where
  isDirectory : Path → Bool
  text? : Path → Option String

def defaultDirectory : String := "node_modules"

def manifestName : String := "package.json"

/-- A text without any `./` in front. -/
def dropHere : List Char → List Char
  | '.' :: '/' :: rest => dropHere rest
  | cs => cs

/-- What a package found at `root` is imported as: what its manifest names, or the directory itself.
A manifest that cannot be read, or is none, counts as one that names nothing. -/
def entryOf (disk : Disk) (root : Path) : Path :=
  match disk.text? (root.join (Path.ofString manifestName)) >>= manifestEntry? with
  | some entry => root.join ⟨Utf8.encode (dropHere entry.toList)⟩
  | none => root

/-- What is meant by a specifier once its package is found at `root`. A subpath is taken as it is,
and whether there is anything is not looked at. -/
def target (disk : Disk) (root : Path) (s : Specifier) : Path :=
  match s.subpath with
  | some rest => root.join (Path.ofString rest)
  | none => entryOf disk root

/-- Where a package lies if it lies under the agreed name `name` in `dir`. -/
def rootIn (dir : Path) (name package : String) : Path :=
  (dir.join (Path.ofString name)).join (Path.ofString package)

/-- The place of a package in one directory. -/
def findIn? (disk : Disk) (names : List String) (package : String) (dir : Path) : Option Path :=
  (names.map fun name => rootIn dir name package).find? disk.isDirectory

/-- Finds packages in directories of the given names, in the directory that asks and then in each
one above it. -/
def resolver (disk : Disk) (names : List String) : PackageResolver := fun specifier dir =>
  match Specifier.parse? specifier with
  | none => .error (.invalidPackage specifier)
  | some s =>
    match dir.ancestors.findSome? (findIn? disk names s.package) with
    | some root => .ok (target disk root s)
    | none => .error (.packageNotFound specifier dir)

end Package

end Stylesheet
