import Stylesheet.Dialect
import Stylesheet.Lookup
import Stylesheet.Package.Resolver
import Stylesheet.Path.Relative
import Stylesheet.Project.Walk

set_option autoImplicit false

/-! # Entries of a project

The entries of a project are the stylesheets in it that are compiled for themselves: no
partials, no plain CSS, and nothing in the directories of installed packages. A filter keeps
those whose path below the project's root contains a text.
-/

namespace Stylesheet.Project

/-- Whether one path comes before another, or is the same. -/
def pathLe (p q : Path) : Bool := (compare p q).isLE

/-- Whether a path passes through a directory of installed packages. -/
def isInstalled (p : Path) : Bool :=
  p.components.contains (.name (Name.ofString Package.defaultDirectory))

def isCompiled (p : Path) : Bool :=
  p.extension? = some Dialect.scssExtension || p.extension? = some Dialect.sassExtension

/-- Whether a path ends in the name of a partial. A name that is not text is none. -/
def isPartial (p : Path) : Bool :=
  match p.fileName? with
  | some n => n.head? = some partialMark && Utf8.isValid n
  | none => false

/-- Whether a path contains the text of a filter below the root. -/
def passes (root : Path) (filter : Option String) (p : Path) : Bool :=
  match filter with
  | some text => Text.occursIn text.toList (root.displayFrom p).toList
  | none => true

/-- Whether a path, if it is that of a file, is that of an entry: a stylesheet that is compiled, is
no partial, passes the filter and lies in no installed package. All of the path counts for the last
of these. -/
def isEntryPath (root : Path) (filter : Option String) (p : Path) : Bool :=
  !isInstalled p && isCompiled p && !isPartial p && passes root filter p

/-- The entries among paths, sorted. -/
def entriesAmong (isFile : Path → Bool) (root : Path) (filter : Option String)
    (paths : List Path) : List Path :=
  (paths.filter fun p => isFile p && isEntryPath root filter p).mergeSort pathLe

def entries (d : Disk) (root : Path) (filter : Option String) : Except Failure (List Path) :=
  (walk d root).map fun visited =>
    entriesAmong d.isFile root filter (visited.map (pathBelow root))

theorem mem_entriesAmong {isFile : Path → Bool} {root : Path} {filter : Option String}
    {paths : List Path} {p : Path} :
    p ∈ entriesAmong isFile root filter paths ↔
      p ∈ paths ∧ isFile p = true ∧ isEntryPath root filter p = true := by
  simp [entriesAmong]

end Stylesheet.Project
