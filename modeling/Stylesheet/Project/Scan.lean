import Stylesheet.Dependency.ScanResult
import Stylesheet.FileSystem.Disk
import Stylesheet.Project.Entries

set_option autoImplicit false

/-! # Scanning a project

A scan finds the entries of a project and what each of them needs. All entries share what is
kept of scans and lookups. An entry that cannot be read is left out of the result.
-/

namespace Stylesheet.Project

open Dependency

/-- How a scan is asked for. -/
structure Options where
  /-- The project's root; the working directory if none is given. -/
  root : Option Path := none
  includePaths : List Path := []
  /-- A text that the paths of entries contain. -/
  entryFilter : Option String := none
deriving DecidableEq, Repr

structure Settings where
  root : Path
  includePaths : List Path
  entryFilter : Option String
deriving DecidableEq, Repr

/-- The settings on a disk: the root without links, if it exists, and include paths read from
there. -/
def Options.settle (o : Options) (d : Disk) : Settings :=
  let root :=
    match o.root with
    | some r => (d.canonical? r).getD r
    | none => Disk.pathOf d.workingDirectory
  { root, includePaths := o.includePaths.map root.join, entryFilter := o.entryFilter }

def Settings.config (s : Settings) (packages : PackageResolver) : Config :=
  { searchRoots := s.includePaths, packages }

def entryDirectory (entry : Path) : Path := entry.parent?.getD (Disk.pathOf [])

/-- What entries need, one after the other. Those that cannot be read are left out. -/
def scanEntries (c : Config) (fs : FileSystem) :
    List Path → Caches → Traced (List EntryDeps × Caches)
  | [], caches => return ([], caches)
  | entry :: rest, caches => do
    let (answer, caches) ←
      reachable { config := c, fs, entryDir := entryDirectory entry } entry caches
    let (others, caches) ← scanEntries c fs rest caches
    match answer with
    | .ok deps => return (deps :: others, caches)
    | .error _ => return (others, caches)

/-- The result of a scan of the given entries, sorted by entry. -/
def scanAll (c : Config) (fs : FileSystem) (root : Path) (entries : List Path) :
    Traced ScanResult := do
  let (found, caches) ← scanEntries c fs entries .empty
  return { root
           entries := found.mergeSort fun a b => pathLe a.entry b.entry
           filesAnalyzed := caches.scannedFiles.length }

/-- Scans a project: walks through it for entries, then searches from each of them in order with
common caches. -/
def scan (d : Disk) (o : Options) : Traced (Except Failure ScanResult) :=
  let s := o.settle d
  match entries d s.root s.entryFilter with
  | .error e => return .error e
  | .ok [] => return .error (.noEntries s.root)
  | .ok es => do
    let packages := Package.resolver d.forPackages [Package.defaultDirectory]
    return .ok (← scanAll (s.config packages) d.toFileSystem s.root es)

end Stylesheet.Project
