import Stylesheet.FileSystem.Basic

set_option autoImplicit false

/-! # File systems in memory

Files with their contents, directories, and paths whose checks fail. Adding a file or a
directory makes every directory above it exist; for a relative path that includes the empty
path. Paths are told apart by their components, and what was added last counts.
-/

namespace Stylesheet

/-- A file system in memory, the latest addition first, so that a file added again has its new text.
-/
structure MemoryFs where
  files : List (Path × String) := []
  directories : List Path := []
  failing : List Path := []

namespace MemoryFs

def empty : MemoryFs := {}

/-- Adds a file and the directories above it. -/
def addFile (m : MemoryFs) (p : Path) (content : String) : MemoryFs :=
  { m with files := (p, content) :: m.files, directories := p.parents ++ m.directories }

def addDirectory (m : MemoryFs) (p : Path) : MemoryFs :=
  { m with directories := p.ancestors ++ m.directories }

/-- Lets every check of a path fail for lack of permission. -/
def addFailing (m : MemoryFs) (p : Path) : MemoryFs := { m with failing := p :: m.failing }

def isFile (m : MemoryFs) (p : Path) : Bool := m.files.any fun (q, _) => q.same p

def isDirectory (m : MemoryFs) (p : Path) : Bool := m.directories.any fun q => q.same p

def isFailing (m : MemoryFs) (p : Path) : Bool := m.failing.any fun q => q.same p

def probe (m : MemoryFs) (p : Path) : Probe :=
  if m.isFailing p then .failed .permissionDenied
  else if m.isFile p || m.isDirectory p then .found
  else .absent

def read (m : MemoryFs) (p : Path) : Except IoError String :=
  match m.files.find? fun (q, _) => q.same p with
  | some (_, content) => .ok content
  | none => .error ⟨.notFound, p.display ++ " not found"⟩

def toFileSystem (m : MemoryFs) : FileSystem where
  probe := m.probe
  read := m.read
  capacity := m.files.length + m.directories.length

/-- What is found is a file or a directory whose checks do not fail. -/
theorem found_iff (m : MemoryFs) (p : Path) :
    m.toFileSystem.found p = true ↔
      m.isFailing p = false ∧ (m.isFile p = true ∨ m.isDirectory p = true) := by
  rw [FileSystem.found, decide_eq_true_iff]
  show m.probe p = .found ↔ _
  unfold probe
  cases m.isFailing p <;> cases m.isFile p <;> cases m.isDirectory p <;> simp

/-- Reading succeeds on files and on nothing else. -/
theorem read_isOk (m : MemoryFs) (p : Path) : (m.read p).isOk = m.isFile p := by
  rw [isFile, ← List.isSome_find?, read]
  cases m.files.find? fun (q, _) => q.same p <;> rfl

end MemoryFs

end Stylesheet
