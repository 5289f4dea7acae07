import Stylesheet.Disk.Lookup
import Stylesheet.Ignore.Rules

set_option autoImplicit false

/-! # Ignore rules of directories

Each directory may bring rules of its own for what lies below it: in a file `.ignore`, and
for repositories in `.gitignore` and in the repository's own list of excludes. A directory
farther down has the say over those above. The rules for repositories count only within one,
and only up to its topmost directory.
-/

namespace Stylesheet.Ignore

/-- The rules that one directory brings: those of its own, those for the repository around it, and
those that this repository keeps to itself. -/
structure Layer where
  /-- How far below the root of the disk the directory lies. -/
  depth : Nat
  own : List Rule
  repository : List Rule
  excludes : List Rule
  /-- Whether the directory is the topmost one of a repository. -/
  isRepository : Bool

namespace Layer

def ask (l : Layer) (rules : List Rule) (place : List Name) (isDirectory : Bool) :
    Option Verdict :=
  verdict? rules (place.drop l.depth) isDirectory

end Layer

/-- The layers up to the nearest repository, the nearest layer first. -/
def withinRepository : List Layer → List Layer
  | [] => []
  | l :: rest => if l.isRepository then [l] else l :: withinRepository rest

/-- What layers say of a path, the nearest layer first. What directories say for themselves comes
before the rules of a repository, which reach no further than it does. -/
def verdictOf? (layers : List Layer) (place : List Name) (isDirectory : Bool) :
    Option Verdict :=
  -- What a directory says for itself counts everywhere, and before all else.
  let own := layers.findSome? fun l => l.ask l.own place isDirectory
  if layers.any (·.isRepository) then
    let inside := withinRepository layers
    own <|> (inside.findSome? fun l => l.ask l.repository place isDirectory)
      <|> (inside.findSome? fun l => l.ask l.excludes place isDirectory)
  else own

def isIgnored (layers : List Layer) (place : List Name) (isDirectory : Bool) : Bool :=
  verdictOf? layers place isDirectory = some .ignored

/-! ## Reading layers -/

def firstLine (d : Disk) (p : Path) : Except IoErrorKind (Option String) :=
  match d.readBytes p with
  | .error why => .error why
  | .ok bytes =>
    match (Text.linesBy 0x0A 0x0D bytes).head? with
    | none => .ok none
    | some line =>
      if Utf8.isValid line then .ok (some (Utf8.toStringLossy line)) else .error .invalidData

/-- What stands before the place of a repository that lies elsewhere. -/
def elsewhereMark : List Char := "gitdir: ".toList

/-- Whether a failed access is met only while reading, so that there is something to read. -/
def isMetReading (why : IoErrorKind) : Bool := why == .isADirectory || why == .invalidData

/-- The directory that the copies of a repository at a place share. A place that cannot be
opened names none. -/
def sharedDirectory (d : Disk) (place : Path) : Option Path × List Problem :=
  let file := place.join (Path.ofString "commondir")
  match firstLine d file with
  | .ok (some line) =>
    let shared := Path.ofString line
    (some (if line.toList.head? = some '.' then place.join shared else shared), [])
  | .ok none => (none, [])
  | .error why => (none, if isMetReading why then [.unreadable file why] else [])

/-- The directory that a repository keeps its excludes in. One that lies elsewhere names a
place that in turn names the directory shared by all its copies. -/
def repositoryDirectory (d : Disk) (dir : Path) : Option Path × List Problem :=
  let dotGit := dir.join (Path.ofString ".git")
  if d.isFile dotGit then
    match firstLine d dotGit with
    | .error why => (none, [.unreadable dotGit why])
    | .ok none => (none, [])
    | .ok (some line) =>
      match Text.after? elsewhereMark line.toList with
      | some place => sharedDirectory d (Path.ofString (String.ofList place))
      | none => (none, [])
  else (some dotGit, [])

def rulesIn (d : Disk) (p : Path) : List Rule × List Problem :=
  match d.readBytes p with
  | .error _ => ([], [])
  | .ok bytes => ((readRules bytes).rulesInForce, (readRules bytes).problemsIn p)

/-- The excludes of the repository in a directory. -/
def excludesIn (d : Disk) (dir : Path) : List Rule × List Problem :=
  match repositoryDirectory d dir with
  | (some p, _) => rulesIn d (p.join (Path.ofString "info/exclude"))
  | (none, problems) => ([], problems)

/-- The layer of the directory at a place, and what went wrong with its rules. -/
def layerAt (d : Disk) (place : Disk.Place) : Layer × List Problem :=
  let dir := Disk.pathOf place
  let (own, ownProblems) := rulesIn d (dir.join (Path.ofString ".ignore"))
  let (repository, repositoryProblems) := rulesIn d (dir.join (Path.ofString ".gitignore"))
  let (excludes, excludeProblems) := excludesIn d dir
  ({ depth := place.length, own, repository, excludes,
     isRepository := d.isPresent (dir.join (Path.ofString ".git"))
       || d.isPresent (dir.join (Path.ofString ".jj")) },
    ownProblems ++ repositoryProblems ++ excludeProblems)

def placesAbove (place : Disk.Place) : List Disk.Place :=
  (List.range place.length).map place.take

/-- The layers of the directories above a place, the nearest first, and what went wrong with
their rules, the topmost first. -/
def layersAbove (d : Disk) (place : Disk.Place) : List Layer × List Problem :=
  let read := (placesAbove place).map (layerAt d)
  ((read.map (·.1)).reverse, read.flatMap (·.2))

end Stylesheet.Ignore
