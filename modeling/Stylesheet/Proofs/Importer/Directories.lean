import Stylesheet.FileSystem.Memory
import Stylesheet.Hooks
import Stylesheet.Proofs.Importer.Answers

set_option autoImplicit false

/-! # Directories that are taken for stylesheets

A lookup asks whether something exists at a place, and a directory does. So an import leads to a
directory if the first existing place that is tried for it is one (`answer_isOk_iff`), and such a
directory cannot be read. For this it needs a name with a dot, and any such directory will do: it
is what the import of its own path leads to (`answer_of_bareDirectory`).
-/

namespace Stylesheet

/-- An existing directory at whose path there is no file. -/
def MemoryFs.IsBareDirectory (m : MemoryFs) (p : Path) : Prop :=
  m.isDirectory p = true ∧ m.isFailing p = false ∧ m.isFile p = false

theorem MemoryFs.isBareDirectory_of_unreadable {m : MemoryFs} {p : Path}
    (hfound : m.toFileSystem.found p = true) (hread : (m.read p).isOk = false) :
    m.IsBareDirectory p := by
  obtain ⟨hfail, hexists⟩ := (m.found_iff p).1 hfound
  rw [m.read_isOk] at hread
  exact ⟨hexists.resolve_left (by simp [hread]), hfail, hread⟩

theorem MemoryFs.IsBareDirectory.found {m : MemoryFs} {p : Path} (h : m.IsBareDirectory p) :
    m.toFileSystem.found p = true :=
  (m.found_iff p).2 ⟨h.2.1, Or.inr h.1⟩

namespace Importer

/-- A path with an extension is the first place tried for it, from wherever. -/
theorem head?_placesTried (i : Importer) (dir : Path) {p : Path} (habs : p.isAbsolute = true)
    (hclean : p.clean = p) {n stem e : Name} (hend : p.EndsIn n)
    (hsplit : n.splitExtension = (stem, some e)) (hstem : stem ≠ Name.here) :
    (i.placesTried dir p).head? = some p := by
  have hext : p.extension? = some e := by rw [hend.extension?, hsplit]
  have hplain := (hend.appendExtension_withoutExtension hsplit).2 hstem
  rw [placesTried, List.flatMap_cons, Path.join_absolute habs, hclean, Lookup.places, hext]
  simp [hplain]

/-- **A directory with an extension is what its own path leads to**, from every directory. -/
theorem answer_of_bareDirectory {m : MemoryFs} {p : Path} (hdir : m.IsBareDirectory p)
    (habs : p.isAbsolute = true) (hclean : p.clean = p) {n stem e : Name} (hend : p.EndsIn n)
    (hsplit : n.splitExtension = (stem, some e)) (hstem : stem ≠ Name.here)
    (entryDir dir : Path) :
    ∃ config specifier, ((⟨config, m.toFileSystem, entryDir⟩ : Importer).canonicalPath specifier
      dir).value = .ok (some p) := by
  refine ⟨{ packages := fun _ _ => .ok p }, "~package", ?_⟩
  have hfirst := head?_placesTried ⟨{ packages := fun _ _ => .ok p }, m.toFileSystem, entryDir⟩
    dir habs hclean hend hsplit hstem
  obtain ⟨others, hplaces⟩ := List.head?_eq_some_iff.1 hfirst
  rw [value_canonicalPath]
  show Except.ok (List.find? m.toFileSystem.found (placesTried _ dir p)) = .ok (some p)
  rw [hplaces, List.find?_cons_of_pos hdir.found]

variable (m : MemoryFs) (config : Config) (entryDir : Path)

/-- **When what an import leads to can be read**: exactly if the first existing one of the places
tried for it is no bare directory. A bare directory is all that it can be otherwise, one named
like a stylesheet. -/
theorem answer_isOk_iff (specifier : String) (dir : Path) :
    let i : Importer := ⟨config, m.toFileSystem, entryDir⟩
    ((∀ p, (i.canonicalPath specifier dir).value = .ok (some p) → (m.read p).isOk = true) ↔
      ∀ target, (i.specifierPath specifier dir).value = .ok (some target) →
        ∀ q, ((i.placesTried dir (config.redirected target).value).filter i.fs.found).head? = some q →
          ¬ m.IsBareDirectory q) ∧
    ∀ p, (i.canonicalPath specifier dir).value = .ok (some p) → (m.read p).isOk = false →
      m.IsBareDirectory p ∧ Lookup.SheetName p := by
  intro i
  -- the answer is the first place that exists, so all depends on what stands at that place
  have hanswer : ∀ q, (i.canonicalPath specifier dir).value = .ok (some q) ↔
      ∃ target, (i.specifierPath specifier dir).value = .ok (some target) ∧
        ((i.placesTried dir (config.redirected target).value).filter i.fs.found).head? = some q := by
    intro q
    simp only [List.head?_filter]
    rw [value_canonicalPath]
    cases (i.specifierPath specifier dir).value with
    | error e => simp [Except.map]
    | ok target => cases target <;> simp [Except.map, i]
  have hbare : ∀ p, (i.canonicalPath specifier dir).value = .ok (some p) →
      (m.read p).isOk = false → m.IsBareDirectory p ∧ Lookup.SheetName p := by
    intro p hp hread
    obtain ⟨hfound, hname⟩ := i.sheetName_of_canonicalPath hp
    exact ⟨MemoryFs.isBareDirectory_of_unreadable hfound hread, hname⟩
  refine ⟨?_, hbare⟩
  constructor
  · intro h target ht q hq hdir
    have hread := h q ((hanswer q).2 ⟨target, ht, hq⟩)
    rw [m.read_isOk, hdir.2.2] at hread
    cases hread
  · intro h p hp
    obtain ⟨target, ht, hq⟩ := (hanswer p).1 hp
    by_contra hread
    exact h target ht p hq (hbare p hp (Bool.eq_false_iff.2 hread)).1

/-- A directory with the name of a stylesheet, and nothing else. -/
def themeDirectory : MemoryFs := MemoryFs.empty.addDirectory (.ofString "/app/theme.scss")

/-- The import `theme` leads to the directory `theme.scss`. -/
theorem answer_themeDirectory :
    ((⟨{ packages := PackageResolver.none }, themeDirectory.toFileSystem, .ofString "/app"⟩ :
        Importer).canonicalPath "theme" (.ofString "/app")).value
      = .ok (some (.ofString "/app/theme.scss")) ∧
    (themeDirectory.read (.ofString "/app/theme.scss")).isOk = false := by
  constructor <;> decide +kernel

end Importer

end Stylesheet
