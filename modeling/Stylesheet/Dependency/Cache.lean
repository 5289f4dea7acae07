import Stylesheet.Importer.Basic
import Stylesheet.Scan.Imports

set_option autoImplicit false

/-! # Scans and lookups that are kept

Several searches through the imports of a project meet the same files. What was scanned in a
file is kept for the file and whether it was read as the entry, since the preprocess hook
may tell the two apart; where a specifier leads is kept for the importing directory. Only
answers are kept: a file that cannot be read and a package that cannot be found are tried
again. An answer once kept never changes.
-/

namespace Stylesheet.Dependency

/-- The answers that are kept, the latest first. A scan is kept by file and role and a lookup by
directory and specifier, and keys that are component-equal count as one. -/
structure Caches where
  imports : List ((Path × Bool) × List String) := []
  resolved : List ((Path × String) × Option Path) := []

namespace Caches

def empty : Caches := {}

def imports? (c : Caches) (file : Path) (isEntry : Bool) : Option (List String) :=
  (c.imports.find? fun ((p, e), _) => p.same file && e == isEntry).map (·.2)

def resolved? (c : Caches) (dir : Path) (specifier : String) : Option (Option Path) :=
  (c.resolved.find? fun ((p, s), _) => p.same dir && s == specifier).map (·.2)

def keepImports (c : Caches) (file : Path) (isEntry : Bool) (specs : List String) : Caches :=
  { c with imports := ((file, isEntry), specs) :: c.imports }

def keepResolved (c : Caches) (dir : Path) (specifier : String) (answer : Option Path) :
    Caches :=
  { c with resolved := ((dir, specifier), answer) :: c.resolved }

def scannedFiles (c : Caches) : List Path :=
  c.imports.foldr (fun ((p, _), _) ps => if ps.any (·.same p) then ps else p :: ps) []

/-- The order of kept scans: by file, the one as an import before the one as the entry. -/
def importKeyLe (a b : Path × Bool) : Bool :=
  match compare a.1 b.1 with
  | .lt => true
  | .gt => false
  | .eq => !a.2 || b.2

/-- The order of kept lookups: by directory, then by specifier. -/
def resolvedKeyLe (a b : Path × String) : Bool :=
  match compare a.1 b.1 with
  | .lt => true
  | .gt => false
  | .eq => a.2 ≤ b.2

def sortedImports (c : Caches) : List ((Path × Bool) × List String) :=
  c.imports.mergeSort fun a b => importKeyLe a.1 b.1

def sortedResolved (c : Caches) : List ((Path × String) × Option Path) :=
  c.resolved.mergeSort fun a b => resolvedKeyLe a.1 b.1

/-! ### What is found after something was kept -/

@[simp] theorem imports?_empty (file : Path) (isEntry : Bool) :
    empty.imports? file isEntry = none := rfl

@[simp] theorem resolved?_empty (dir : Path) (specifier : String) :
    empty.resolved? dir specifier = none := rfl

/-- The scan kept last is found under its own file and flag and hides nothing else. -/
theorem imports?_keepImports (c : Caches) (file other : Path) (isEntry flag : Bool)
    (specs : List String) :
    (c.keepImports file isEntry specs).imports? other flag =
      if file.same other && isEntry == flag then some specs else c.imports? other flag := by
  unfold imports? keepImports
  rw [List.find?_cons]
  split
  · rename_i h
    rw [if_pos h]
    rfl
  · rename_i h
    rw [if_neg (Bool.eq_false_iff.1 h)]

/-- The answer kept last is found under its own directory and specifier and hides nothing
else. -/
theorem resolved?_keepResolved (c : Caches) (dir other : Path) (specifier name : String)
    (answer : Option Path) :
    (c.keepResolved dir specifier answer).resolved? other name =
      if dir.same other && specifier == name then some answer else c.resolved? other name := by
  unfold resolved? keepResolved
  rw [List.find?_cons]
  split
  · rename_i h
    rw [if_pos h]
    rfl
  · rename_i h
    rw [if_neg (Bool.eq_false_iff.1 h)]

@[simp] theorem resolved?_keepImports (c : Caches) (file dir : Path) (isEntry : Bool)
    (specs : List String) (specifier : String) :
    (c.keepImports file isEntry specs).resolved? dir specifier = c.resolved? dir specifier := rfl

@[simp] theorem imports?_keepResolved (c : Caches) (dir file : Path) (specifier : String)
    (answer : Option Path) (isEntry : Bool) :
    (c.keepResolved dir specifier answer).imports? file isEntry = c.imports? file isEntry := rfl

end Caches

/-- What a stylesheet imports, from the cache if it was scanned before in the same role. A failure
to read it is not kept, so that the next one who asks tries again. -/
def importsFor (i : Importer) (file : Path) (isEntry : Bool) (c : Caches) :
    Traced (Except Failure (List String) × Caches) :=
  match c.imports? file isEntry with
  | some specs => return (.ok specs, c)
  | none => do
    match ← i.readSource file isEntry with
    | .error e => return (.error e, c)
    | .ok source =>
      let specs := Scan.scanImports source (.ofPath file)
      return (.ok specs, c.keepImports file isEntry specs)

/-- Where a specifier leads, from the cache if it was looked up before. That it leads nowhere is
kept as well, but a failure is not. -/
def resolve (i : Importer) (dir : Path) (specifier : String) (c : Caches) :
    Traced (Except Failure (Option Path) × Caches) :=
  match c.resolved? dir specifier with
  | some answer => return (.ok answer, c)
  | none => do
    match ← i.canonicalPath specifier dir with
    | .error e => return (.error e, c)
    | .ok answer =>
      return (.ok answer, c.keepResolved dir specifier answer)

end Stylesheet.Dependency
