import Stylesheet.Dialect
import Stylesheet.FileSystem.Basic
import Stylesheet.Path.Clean

set_option autoImplicit false

/-! # Looking up stylesheets

An import names a stylesheet without saying where exactly its file is. A path without an
extension is tried with each extension in turn, each time plain and as a *partial*, whose
file name starts with an underscore; then the same is done for a file `index` in the
directory of that name (`probePlan`). Each of the two stages is guarded by a directory
without which there is nothing to try. A path with an extension is tried as it is and as a
partial, and nothing else.

Every function checks paths in a fixed order, which its trace shows, and takes the first that
exists.
-/

namespace Stylesheet

def partialMark : UInt8 := 0x5F

/-- The partial in the same directory under the name of `p`. -/
def Path.asPartial? (p : Path) : Option Path :=
  p.fileName?.map fun n => p.withFileName (partialMark :: n)

namespace Lookup

/-- The extensions that are tried, the most common dialect first. -/
def extensions : List Name := [Dialect.scssExtension, Dialect.cssExtension, Dialect.sassExtension]

def indexName : Name := Name.ofString "index"

/-- A part of a lookup: without the guard the lookup ends, with it the candidates are tried. -/
structure Stage where
  guard : Path
  candidates : List Path
deriving DecidableEq, Repr

/-- The paths tried for `base`: for each extension in order the plain name, and then the partial if
the name can be that of one. -/
def candidates (base : Path) : List Path :=
  extensions.flatMap fun e =>
    let plain := base.appendExtension e
    plain :: plain.asPartial?.toList

/-- All that is tried for an import without an extension, in order: the stylesheets next to `base`,
if there is its directory, and then the index of the directory `base`, if there is one. -/
def probePlan (base : Path) : List Stage :=
  [{ guard := base.parentOrSelf, candidates := candidates base },
   { guard := base, candidates := candidates (base.join ⟨indexName⟩) }]

/-- The first path that exists. Those behind it are not checked any more. -/
def firstFound (fs : FileSystem) : List Path → Traced (Option Path)
  | [] => return none
  | p :: ps => do
    if ← fs.check p then return some p else firstFound fs ps

/-- The first candidate that exists, as long as the guards do. -/
def runStages (fs : FileSystem) : List Stage → Traced (Option Path)
  | [] => return none
  | s :: rest => do
    if ← fs.check s.guard then
      match ← firstFound fs s.candidates with
      | some p => return some p
      | none => runStages fs rest
    else return none

/-- Looks up an import without an extension, by the stages of its plan. -/
def withoutExtension (fs : FileSystem) (base : Path) : Traced (Option Path) :=
  runStages fs (probePlan base)

/-- Looks up `base` with exactly one extension, plain or as a partial. No other extension is tried,
and no index. -/
def withExtension (fs : FileSystem) (base : Path) (extension : Name) : Traced (Option Path) :=
  let plain := base.appendExtension extension
  firstFound fs (plain :: plain.asPartial?.toList)

/-- Looks up what an import path means from the directory `dir`. An extension of the path is taken
as it stands, whatever it is, and cut off only to be written again. -/
def fromDirectory (fs : FileSystem) (dir importPath : Path) : Traced (Option Path) :=
  let p := (dir.join importPath).clean
  match p.extension? with
  | some e => withExtension fs p.withoutExtension e
  | none => withoutExtension fs p

/-! ## What is found and what is checked -/

/-- The first path that exists is found. -/
theorem value_firstFound (fs : FileSystem) (ps : List Path) :
    (firstFound fs ps).value = ps.find? fs.found := by
  induction ps with
  | nil => rfl
  | cons p ps ih =>
    rw [firstFound, Traced.value_bind, FileSystem.value_check, List.find?_cons]
    cases fs.found p with
    | true => rfl
    | false => exact ih

/-- Every path is checked up to the first that exists. -/
theorem probes_firstFound (fs : FileSystem) (ps : List Path) :
    (firstFound fs ps).probes =
      ps.takeWhile (fun p => !fs.found p) ++ (ps.find? fs.found).toList := by
  induction ps with
  | nil => rfl
  | cons p ps ih =>
    rw [firstFound, Traced.probes_bind, FileSystem.probes_check, FileSystem.value_check,
      List.takeWhile_cons, List.find?_cons]
    cases fs.found p with
    | true => rfl
    | false => exact congrArg (p :: ·) ih

end Lookup

end Stylesheet
