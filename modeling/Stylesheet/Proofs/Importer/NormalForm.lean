import Stylesheet.Proofs.Importer.ContainingUrl
import Stylesheet.Proofs.Importer.SearchOrder

set_option autoImplicit false

/-! # Answers in normal form

Where search roots and importing directory are absolute, an answer is an absolute path in its
shortest spelling (`Path.Normal`), however the directory and the specifier were spelled. It is the
path that was checked last, and that check found it. Since two such spellings of one path are the
same text, answers can be told apart by their texts (`canonicalPath_normal`).
-/

namespace Stylesheet

namespace Path

/-- An absolute path that cleaning leaves as it is: between its separators stand names only. -/
structure Normal (p : Path) : Prop where
  isAbsolute : p.isAbsolute = true
  clean : p.clean = p
  pieces : ∀ n ∈ Text.pieces (· == separator) p.bytes.tail,
    n ≠ [] ∧ n ≠ Name.here ∧ n ≠ Name.up

variable {p q : Path}

/-- Paths in normal form are told apart by their texts. -/
theorem Normal.eq_of_same (hp : p.Normal) (hq : q.Normal) (h : p.same q = true) : p = q :=
  (tidy_of_clean_eq hp.clean).eq_of_same (tidy_of_clean_eq hq.clean) h

/-- A clean absolute path that ends in a name is in normal form. -/
theorem Rooted.normal (h : p.Rooted) (hname : p.fileName? ≠ none) : p.Normal := by
  refine ⟨h.isAbsolute, h.clean, fun n hn => ?_⟩
  obtain ⟨ns, hns, rfl⟩ := h
  have hne : ns ≠ [] := by
    rintro rfl
    exact hname rfl
  have hpieces : Text.pieces (· == separator) (Anchor.root.spell ns).bytes.tail = ns :=
    Text.pieces_join hne fun m hm => (hns m hm).1.no_separator
  rw [hpieces] at hn
  obtain ⟨hstep, hup⟩ := hns n hn
  exact ⟨hstep.ne_nil, hstep.ne_here, hup⟩

end Path

/-! ## The last check -/

/-- The answer, if there is one, is the path that was checked last. -/
def Traced.LastProbed (x : Traced (Option Path)) : Prop :=
  ∀ p, x.value = some p → x.probes.getLast? = some p

namespace Lookup

theorem lastProbed_fromDirectory (fs : FileSystem) (dir importPath : Path) :
    (fromDirectory fs dir importPath).LastProbed := by
  intro p hp
  obtain ⟨plan, hplan⟩ := exists_follows_fromDirectory fs dir importPath
  exact (hplan.found_last hp).2

end Lookup

namespace Importer

variable (i : Importer) {specifier : String} {dir p : Path}

/-- The directories without a match are looked into before the one with the answer. -/
theorem lastProbed_searchIn (p : Path) (dirs : List Path) : (i.searchIn p dirs).LastProbed := by
  induction dirs with
  | nil =>
      intro q hq
      cases hq
  | cons d dirs ih =>
      intro q hq
      rw [searchIn, Traced.value_bind] at hq
      rw [searchIn, Traced.probes_bind, List.getLast?_append]
      cases hfirst : (Lookup.fromDirectory i.fs d p).value with
      | some found =>
          rw [hfirst] at hq
          obtain rfl : found = q := Option.some.inj hq
          have hlast := Lookup.lastProbed_fromDirectory i.fs d p found hfirst
          simp [hlast]
      | none =>
          rw [hfirst] at hq
          simp only [ih q hq, Option.some_or]

/-- **An answer is the path that was checked last.** -/
theorem getLast?_probes_canonicalPath
    (h : (i.canonicalPath specifier dir).value = .ok (some p)) :
    (i.canonicalPath specifier dir).probes.getLast? = some p := by
  rw [canonicalPath_eq, Traced.value_bind] at h
  rw [canonicalPath_eq, Traced.probes_bind, List.getLast?_append]
  cases hs : (i.specifierPath specifier dir).value with
  | error e =>
      rw [hs] at h
      cases h
  | ok target =>
      cases target with
      | none =>
          rw [hs] at h
          cases h
      | some q =>
          rw [hs] at h
          simp only [Traced.value_bind] at h
          have hvalue : (i.searchIn (i.config.redirected q).value
              (i.searchDirs dir (i.config.redirected q).value)).value = some p :=
            Except.ok.inj h
          have hlast := i.lastProbed_searchIn _ _ p hvalue
          simp [hlast]

/-- **Answers are in normal form.** With absolute search roots and from an absolute directory, what
a specifier leads to is a path in normal form, which was checked last and found. Whatever else leads
to the same path, with any other importer of this kind, leads to the same text. -/
theorem canonicalPath_normal (hroots : ∀ root ∈ i.config.searchRoots, root.isAbsolute = true)
    (hdir : dir.isAbsolute = true) (h : (i.canonicalPath specifier dir).value = .ok (some p)) :
    p.Normal ∧ i.fs.probe p = .found ∧
      (i.canonicalPath specifier dir).probes.getLast? = some p ∧
      ∀ (j : Importer) (specifier' : String) (dir' p' : Path),
        (∀ root ∈ j.config.searchRoots, root.isAbsolute = true) → dir'.isAbsolute = true →
          (j.canonicalPath specifier' dir').value = .ok (some p') → p.same p' = true → p' = p := by
  have hnormal : ∀ (j : Importer) (specifier' : String) (dir' p' : Path),
      (∀ root ∈ j.config.searchRoots, root.isAbsolute = true) → dir'.isAbsolute = true →
        (j.canonicalPath specifier' dir').value = .ok (some p') → p'.Normal := by
    intro j specifier' dir' p' hroots' hdir' h'
    have habs := j.isAbsolute_of_canonicalPath hroots' hdir' h'
    obtain ⟨hrooted, stem, e, hend, -⟩ := j.rootedSheet_of_canonicalPath h' habs
    exact hrooted.normal (by simp [hend.fileName?])
  have hp := hnormal i specifier dir p hroots hdir h
  refine ⟨hp, ?_, i.getLast?_probes_canonicalPath h, ?_⟩
  · simpa [FileSystem.found] using (i.sheetName_of_canonicalPath h).1
  · intro j specifier' dir' p' hroots' hdir' h' hsame
    exact ((hp.eq_of_same (hnormal j specifier' dir' p' hroots' hdir' h')) hsame).symm

/-- One stylesheet is found in two ways, one of them with every kind of noise. -/
theorem canonicalPath_normal_themes :
    let i := themesImporter [.ofString "/lib"]
    let dir := Path.ofString "//app/./pages//"
    let specifier := "..//base%20theme/./"
    let j := themesImporter [.ofString "/app/."]
    (∀ root ∈ i.config.searchRoots, root.isAbsolute = true) ∧ dir.isAbsolute = true ∧
      (i.canonicalPath specifier dir).value = .ok (some themeIndex) ∧
      (themeIndex.Normal ∧ i.fs.probe themeIndex = .found ∧
        (i.canonicalPath specifier dir).probes.getLast? = some themeIndex) ∧
      ∀ p', (j.canonicalPath "base theme" (.ofString "/lib")).value = .ok (some p') →
        themeIndex.same p' = true → p' = themeIndex := by
  intro i dir specifier j
  have hroots : ∀ root ∈ i.config.searchRoots, root.isAbsolute = true := by decide +kernel
  have hroots' : ∀ root ∈ j.config.searchRoots, root.isAbsolute = true := by decide +kernel
  have hdir : dir.isAbsolute = true := by decide +kernel
  have hdir' : (Path.ofString "/lib").isAbsolute = true := by decide +kernel
  have h : (i.canonicalPath specifier dir).value = .ok (some themeIndex) := by decide +kernel
  obtain ⟨hnormal, hfound, hlast, hunique⟩ := i.canonicalPath_normal hroots hdir h
  exact ⟨hroots, hdir, h, ⟨hnormal, hfound, hlast⟩, fun p' h' hsame =>
    hunique j "base theme" (.ofString "/lib") p' hroots' hdir' h' hsame⟩

end Importer

end Stylesheet
