import Stylesheet.FileSystem.Memory
import Stylesheet.Proofs.Path.Ancestors

set_option autoImplicit false

/-! # File systems built by additions

A file system in memory is built by adding files, directories and checks that fail, in any order
(`MemoryFs.ofAdditions`). With a file or a directory come all directories above it, so in every
file system built like this the directories above whatever exists exist as well
(`MemoryFs.ancestorsExist_ofAdditions`).
-/

namespace Stylesheet.MemoryFs

inductive Addition
  | file (p : Path) (content : String)
  | directory (p : Path)
  | failing (p : Path)

def add (m : MemoryFs) : Addition → MemoryFs
  | .file p content => m.addFile p content
  | .directory p => m.addDirectory p
  | .failing p => m.addFailing p

/-- The file system built by additions, made in order. -/
def ofAdditions (additions : List Addition) : MemoryFs := additions.foldl add empty

/-- There is a file or a directory at a path. -/
def Holds (m : MemoryFs) (p : Path) : Prop := m.isFile p = true ∨ m.isDirectory p = true

/-- The directories above what a file system holds are directories of it. Every addition keeps it
so, and the guards of a lookup rest on it. -/
def AncestorsExist (m : MemoryFs) : Prop :=
  ∀ p q : Path, m.Holds p → q ∈ p.parents → m.isDirectory q = true

variable {m m' : MemoryFs} {p q : Path}

theorem isDirectory_congr (h : p.components = q.components) :
    m.isDirectory p = m.isDirectory q := by
  simp only [isDirectory, Path.same, h]

/-- Every spelling of a directory above what exists is that of a directory. -/
theorem AncestorsExist.isDirectory_of_isAbove (h : m.AncestorsExist) (hp : m.Holds p)
    (hq : q.IsAbove p) : m.isDirectory q = true := by
  obtain ⟨d, hd, hsame⟩ := Path.exists_mem_parents_iff.2 hq
  rw [← isDirectory_congr hsame]
  exact h p d hp hd

theorem any_parents_iff : (p.parents.any fun d => d.same q) = true ↔ q.IsAbove p := by
  rw [List.any_eq_true, ← Path.exists_mem_parents_iff]
  simp only [Path.same_iff]

/-! ## What an addition keeps -/

theorem ancestorsExist_empty : empty.AncestorsExist := by
  rintro p q (h | h)
  · cases h
  · cases h

/-- If nothing comes but a path and directories above it, and all of these do, the directories above
whatever exists still exist. -/
theorem AncestorsExist.grow (h : m.AncestorsExist)
    (hholds : ∀ q, m'.Holds q → m.Holds q ∨ p.components = q.components ∨ q.IsAbove p)
    (habove : ∀ q, m.isDirectory q = true ∨ q.IsAbove p → m'.isDirectory q = true) :
    m'.AncestorsExist := by
  intro q d hq hd
  have hdq := Path.isAbove_of_mem_parents hd
  rcases hholds q hq with hold | hsame | hqp
  · exact habove d (.inl (h q d hold hd))
  · exact habove d (.inr (hdq.congr hsame.symm))
  · exact habove d (.inr (hdq.trans hqp))

theorem AncestorsExist.add (h : m.AncestorsExist) (a : Addition) : (m.add a).AncestorsExist := by
  cases a with
  | file p content =>
      have hdirectory : ∀ q, (m.addFile p content).isDirectory q = true ↔
          q.IsAbove p ∨ m.isDirectory q = true := by
        intro q
        rw [← any_parents_iff]
        simp [addFile, isDirectory]
      have hfile : ∀ q, (m.addFile p content).isFile q = true ↔
          p.components = q.components ∨ m.isFile q = true := by
        intro q
        simp [addFile, isFile]
      refine h.grow (p := p) (fun q hq => ?_) fun q hq => (hdirectory q).2 hq.symm
      rcases hq with hq | hq
      · exact ((hfile q).1 hq).elim (fun hsame => .inr (.inl hsame)) fun hold => .inl (.inl hold)
      · exact ((hdirectory q).1 hq).elim (fun hqp => .inr (.inr hqp)) fun hold => .inl (.inr hold)
  | directory p =>
      have hdirectory : ∀ q, (m.addDirectory p).isDirectory q = true ↔
          p.components = q.components ∨ q.IsAbove p ∨ m.isDirectory q = true := by
        intro q
        rw [← any_parents_iff]
        simp [addDirectory, Path.ancestors, isDirectory]
      refine h.grow (p := p) (fun q hq => ?_) fun q hq => (hdirectory q).2 (.inr hq.symm)
      rcases hq with hq | hq
      · exact .inl (.inl hq)
      · rcases (hdirectory q).1 hq with hsame | hqp | hold
        · exact .inr (.inl hsame)
        · exact .inr (.inr hqp)
        · exact .inl (.inr hold)
  | failing p => exact h

theorem AncestorsExist.foldl_add (h : m.AncestorsExist) (additions : List Addition) :
    (additions.foldl MemoryFs.add m).AncestorsExist := by
  induction additions generalizing m with
  | nil => exact h
  | cons a additions ih => exact ih (h.add a)

/-- **In a file system built by additions the directories above whatever exists exist.** -/
theorem ancestorsExist_ofAdditions (additions : List Addition) :
    (ofAdditions additions).AncestorsExist :=
  ancestorsExist_empty.foldl_add additions

/-! ## Checks that fail -/

theorem isFailing_foldl_add (additions : List Addition) (m : MemoryFs) (q : Path) :
    (additions.foldl MemoryFs.add m).isFailing q = true ↔
      m.isFailing q = true ∨ ∃ p, .failing p ∈ additions ∧ p.same q = true := by
  induction additions generalizing m with
  | nil => simp
  | cons a additions ih =>
      rw [List.foldl_cons, ih]
      cases a with
      | file p content => simp [add, addFile, isFailing]
      | directory p => simp [add, addDirectory, isFailing]
      | failing p =>
          have hadded : (m.addFailing p).isFailing q = true ↔
              p.same q = true ∨ m.isFailing q = true := by
            simp [addFailing, isFailing]
          rw [add, hadded]
          constructor
          · rintro ((hp | hm) | ⟨r, hr, hq⟩)
            · exact .inr ⟨p, List.mem_cons_self, hp⟩
            · exact .inl hm
            · exact .inr ⟨r, List.mem_cons_of_mem _ hr, hq⟩
          · rintro (hm | ⟨r, hr, hq⟩)
            · exact .inl (.inr hm)
            · rcases List.mem_cons.1 hr with heq | hr
              · obtain rfl := Addition.failing.inj heq
                exact .inl (.inl hq)
              · exact .inr ⟨r, hr, hq⟩

/-- The checks that fail are those added as failing. -/
theorem isFailing_ofAdditions (additions : List Addition) (q : Path) :
    (ofAdditions additions).isFailing q = true ↔
      ∃ p, .failing p ∈ additions ∧ p.same q = true := by
  rw [ofAdditions, isFailing_foldl_add]
  simp [empty, isFailing]

end Stylesheet.MemoryFs
