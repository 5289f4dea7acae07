import Stylesheet.Config
import Stylesheet.Lookup
import Stylesheet.Text.Percent
import Stylesheet.Url.FilePath

set_option autoImplicit false

/-! # Importers

An importer turns the specifiers of imports into stylesheets. A specifier is one of three
things: after `~` a package specifier, after `file://` a URL, and otherwise a
percent-encoded path. The path that comes of it is looked up from the importing directory
and then from each search root; the first match wins. Finding nothing is no failure, but a
package that cannot be found is.
-/

namespace Stylesheet

/-- Everything that finding and loading imports depends on: the settings with their hooks, the file
system, and the directory of the entry. -/
structure Importer where
  config : Config
  fs : FileSystem
  /-- The importing directory where none is known. -/
  entryDir : Path

structure LoadedSheet where
  contents : String
  dialect : Dialect
  /-- The URL that source maps show, if they are made. -/
  mapUrl : Option Url
deriving DecidableEq, Repr

namespace Importer

def packageMark : List Char := ['~']

def fileUrlMark : List Char := "file://".toList

def embeddedMark : List Char := ['/', '~']

variable (i : Importer)

def findPackage (specifier : String) (dir : Path) : Traced (Except Failure Path) := do
  Traced.emit (.packageLookup specifier dir)
  return i.config.packages specifier dir

/-- A path in which a package specifier was joined to the importing directory names that
package, seen from the directory before the last mark. -/
def unembed (p : Path) : Traced (Except Failure Path) :=
  match Text.cutAtLast? embeddedMark p.display.toList with
  | none => return .ok p
  | some (dir, package) =>
    i.findPackage (String.ofList package) (Path.ofString (String.ofList dir))

/-- The path that a specifier means; none if it is a URL that names no file. Behind `~` stands a
package, a `file` URL names its file or a package in it, and everything else is a path. -/
def specifierPath (specifier : String) (dir : Path) : Traced (Except Failure (Option Path)) :=
  match Text.after? packageMark specifier.toList with
  | some package => do
    return (← i.findPackage (Percent.decodeString (String.ofList package)) dir).map some
  | none =>
    if fileUrlMark.isPrefixOf specifier.toList then
      match (Url.parse specifier).toOption >>= Url.toFilePath? with
      | none => return .ok none
      | some p => do return (← i.unembed p).map some
    else return .ok (some (Path.ofString (Percent.decodeString specifier)))

/-- The first match of a path in the given directories. -/
def searchIn (p : Path) : List Path → Traced (Option Path)
  | [] => return none
  | dir :: rest => do
    match ← Lookup.fromDirectory i.fs dir p with
    | some found => return some found
    | none => searchIn p rest

/-- Finds the stylesheet that a specifier means when imported from `dir`. Whatever path it means
goes through the redirect hook, and is looked up from `dir` and then from each search root. An
absolute path is the same from everywhere and looked up once. -/
def canonicalPath (specifier : String) (dir : Path) : Traced (Except Failure (Option Path)) := do
  match ← i.specifierPath specifier dir with
  | .error e => return .error e
  | .ok none => return .ok none
  | .ok (some p) =>
    let p ← i.config.redirected p
    match ← Lookup.fromDirectory i.fs dir p with
    | some found => return .ok (some found)
    | none =>
      -- An absolute path means the same from every search root.
      if p.isAbsolute then return .ok none
      else return .ok (← i.searchIn p i.config.searchRoots)

def canonicalUrl (specifier : String) (dir : Path) : Traced (Except Failure (Option Url)) := do
  return (← i.canonicalPath specifier dir).map (· >>= Url.ofFilePath?)

/-- The directory that the stylesheet at a URL imports from: the one that its file lies in, and that
of the entry where the URL names no file. -/
def importingDir (containing : Option Url) : Path :=
  (containing >>= Url.toFilePath? >>= Path.parent?).getD i.entryDir

/-- The URL of the stylesheet that a specifier means in the stylesheet at `containing`. This is what
a compiler asks. -/
def canonicalize (specifier : String) (containing : Option Url) :
    Traced (Except Failure (Option Url)) :=
  i.canonicalUrl specifier (i.importingDir containing)

/-- Reads a stylesheet and lets the preprocess hook see it, which is told whether the stylesheet is
read as the entry. -/
def readSource (p : Path) (isEntry : Bool) : Traced (Except Failure String) :=
  match i.fs.read p with
  | .error cause => return .error (.unreadable p cause)
  | .ok content => i.config.preprocessed content p isEntry

/-- Loads an imported stylesheet from a path, known by a URL. -/
def loadPath (p : Path) (url : Url) : Traced (Except Failure LoadedSheet) := do
  return (← i.readSource p false).map fun contents =>
    { contents, dialect := .ofPath p, mapUrl := if i.config.sourceMap then some url else none }

/-- Loads an imported stylesheet; none if the URL names no file. -/
def load (url : Url) : Traced (Except Failure (Option LoadedSheet)) :=
  match url.toFilePath? with
  | none => return .ok none
  | some p => do return (← i.loadPath p url).map some

end Importer

end Stylesheet
