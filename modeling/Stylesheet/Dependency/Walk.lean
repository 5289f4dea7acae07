import Stylesheet.Dependency.Cache

set_option autoImplicit false

/-! # Reachable stylesheets

`reachable` lists the stylesheets that an entry needs, itself first, each before what it
imports and the first import's share before the second's. Plain CSS is listed and not looked
into. Imports that lead nowhere are listed too, with the reason if looking them up failed;
an import that leads to a file that cannot be read ends there. Only the entry itself must be
readable.

The walk keeps a stack of files to visit. Every visit takes a file that was not visited
before, and all but the entry exist, so there are at most as many visits as existing paths
and one more: this is the budget that the walk starts with.
-/

namespace Stylesheet.Dependency

structure Unresolved where
  fromFile : Path
  specifier : String
  /-- Why looking it up failed; none if nothing matched. -/
  reason : Option String
deriving DecidableEq, Repr

structure EntryDeps where
  entry : Path
  /-- The entry and everything it needs, in the order of discovery. -/
  files : List Path
  unresolved : List Unresolved
deriving DecidableEq, Repr

structure Followed where
  children : List Path
  unresolved : List Unresolved

/-- Follows specifiers from a file in order. One whose lookup fails or leads nowhere is told of and
does not end the search. -/
def follow (i : Importer) (file : Path) : List String → Caches → Traced (Followed × Caches)
  | [], c => return (⟨[], []⟩, c)
  | spec :: specs, c => do
    let (answer, c) ← resolve i file.parentOrSelf spec c
    let (rest, c) ← follow i file specs c
    match answer with
    | .ok (some p) => return ({ rest with children := p :: rest.children }, c)
    | .ok none =>
      return ({ rest with unresolved := ⟨file, spec, none⟩ :: rest.unresolved }, c)
    | .error e =>
      return ({ rest with unresolved := ⟨file, spec, some e.message⟩ :: rest.unresolved }, c)

/-- Looks into one file, in the role of the entry if it is the entry. Plain CSS leads nowhere.
Another file that cannot be read is listed all the same, and leads nowhere either. -/
def visit (i : Importer) (entry file : Path) (c : Caches) :
    Traced (Except Failure Followed × Caches) :=
  if Dialect.ofPath file = .css then return (.ok ⟨[], []⟩, c)
  else do
    let isEntry := file.same entry
    match ← importsFor i file isEntry c with
    | (.error e, c) => return (if isEntry then .error e else .ok ⟨[], []⟩, c)
    | (.ok specs, c) =>
      let (followed, c) ← follow i file specs c
      return (.ok followed, c)

/-- Visits the files of the stack, at most as many as the budget allows. `seen` holds the files
visited so far, the last one first, and a file that is the same as one of them is passed over. -/
def walk (i : Importer) (entry : Path) : Nat → List Path → List Path → List Unresolved → Caches →
    Traced (Except Failure EntryDeps × Caches)
  | budget, stack, seen, missing, c =>
    match stack.dropWhile fun p => seen.any (·.same p) with
    | [] => return (.ok ⟨entry, seen.reverse, missing⟩, c)
    | file :: rest =>
      match budget with
      -- Never reached with a budget that covers every existing path.
      | 0 => return (.error .endless, c)
      | budget + 1 => do
        match ← visit i entry file c with
        | (.error e, c) => return (.error e, c)
        | (.ok followed, c) =>
          -- The children come before what is left, so the first import goes first. Those that were
          -- visited by now are not put on the stack; others may be found visited later.
          let new := followed.children.filter fun p => !(file :: seen).any (·.same p)
          walk i entry budget (new ++ rest) (file :: seen) (missing ++ followed.unresolved) c

/-- The stylesheets that an entry needs, in the order in which a depth-first search meets them.
Plain CSS is not looked into, and a file that is met again is not listed twice. -/
def reachable (i : Importer) (entry : Path) (c : Caches) :
    Traced (Except Failure EntryDeps × Caches) :=
  walk i entry (i.fs.capacity + 1) [entry] [] [] c

end Stylesheet.Dependency
