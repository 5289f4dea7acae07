import Stylesheet.Proofs.Importer.CanonicalUrl

set_option autoImplicit false

/-! # Importing from a URL

A compiler knows stylesheets by URLs, the dependency scan by paths. A stylesheet at a URL imports
from the directory of its file, and where search roots and importing directory are absolute no
answer is lost for want of a URL (`isAbsolute_of_canonicalPath`). So both see the same answers,
failures and checks, and what is loaded from a URL is the source of its file
(`canonicalize_ofFilePath?`).
-/

namespace Stylesheet.Importer

variable (i : Importer) {specifier : String} {dir f p : Path} {u : Url}

/-! ## Answers with URLs -/

/-- From absolute directories only absolute paths are found. -/
theorem isAbsolute_of_canonicalPath (hroots : ∀ root ∈ i.config.searchRoots, root.isAbsolute = true)
    (hdir : dir.isAbsolute = true) (h : (i.canonicalPath specifier dir).value = .ok (some p)) :
    p.isAbsolute = true := by
  obtain ⟨q, -, hp, -⟩ := i.mem_placesTried_of_canonicalPath h
  obtain ⟨d, hd, hp⟩ := List.mem_flatMap.1 hp
  have habs : d.isAbsolute = true := by
    rcases List.mem_cons.1 hd with rfl | hd
    · exact hdir
    · split at hd
      · cases hd
      · exact hroots d hd
  rw [Lookup.isAbsolute_of_mem_places i.fs (Path.clean_tidy _) hp, Path.isAbsolute_clean,
    Path.isAbsolute_join, habs, Bool.true_or]

theorem canonicalUrl_eq_error_iff {e : Failure} :
    (i.canonicalUrl specifier dir).value = .error e ↔
      (i.canonicalPath specifier dir).value = .error e := by
  rw [value_canonicalUrl]
  cases (i.canonicalPath specifier dir).value with
  | error e' => simp [Except.map]
  | ok answer => exact iff_of_false (fun h => by cases h) (fun h => by cases h)

theorem canonicalUrl_eq_some_iff :
    (i.canonicalUrl specifier dir).value = .ok (some u) ↔
      ∃ p, (i.canonicalPath specifier dir).value = .ok (some p) ∧ Url.ofFilePath? p = some u := by
  rw [value_canonicalUrl]
  cases (i.canonicalPath specifier dir).value with
  | error e' => simp [Except.map]
  | ok answer => cases answer <;> simp [Except.map]

/-- Where all answers are absolute none is dropped. -/
theorem canonicalUrl_eq_none_iff
    (habs : ∀ p, (i.canonicalPath specifier dir).value = .ok (some p) → p.isAbsolute = true) :
    (i.canonicalUrl specifier dir).value = .ok none ↔
      (i.canonicalPath specifier dir).value = .ok none := by
  rw [value_canonicalUrl]
  cases hy : (i.canonicalPath specifier dir).value with
  | error e' => simp [Except.map]
  | ok answer =>
      cases answer with
      | none => simp [Except.map]
      | some p =>
          obtain ⟨u, hu⟩ := Url.exists_url_of_isAbsolute (habs p hy)
          simp [Except.map, hu]

/-! ## Stylesheets at URLs -/

/-- A stylesheet imports from the directory of its file. -/
theorem importingDir_of_toFilePath? (hu : u.toFilePath? = some f) (hdir : f.parent? = some dir) :
    i.importingDir (some u) = dir := by
  simp [importingDir, hu, hdir]

/-- The stylesheet of the file `p`, known by `u`: its dialect is that of the file, and a source map
shows the URL. -/
def sheetAt (p : Path) (u : Url) (contents : String) : LoadedSheet where
  contents := contents
  dialect := .ofPath p
  mapUrl := if i.config.sourceMap then some u else none

/-- What is loaded from the URL of a file is its source. -/
theorem load_of_toFilePath? (hu : u.toFilePath? = some p) :
    i.load u =
      (do return (← i.readSource p false).map fun contents => some (i.sheetAt p u contents)) := by
  rw [load, hu]
  refine Traced.ext ?_ ?_
  · simp only [loadPath, Traced.value_bind, Traced.value_pure]
    cases (i.readSource p false).value with
    | error e => rfl
    | ok contents => rfl
  · simp [loadPath]

/-- **Importing from a URL and from a path agree.** A file has a URL, and what is imported at that
URL is what is imported from the directory of the file: the same failures, the URLs of the same
paths, and the same checks, lookups and hooks on the way. From the URL that is found, the source of
the path is loaded. The directory of the entry plays no part. -/
theorem canonicalize_ofFilePath? (i : Importer)
    (hroots : ∀ root ∈ i.config.searchRoots, root.isAbsolute = true)
    (habs : f.isAbsolute = true) (hclean : f.clean = f) (hdir : f.parent? = some dir)
    (hback : Url.LeadsBack f) (specifier : String)
    (hanswer : ∀ p, (i.canonicalPath specifier dir).value = .ok (some p) → Url.LeadsBack p) :
    ∃ containing, Url.ofFilePath? f = some containing ∧
      let x := i.canonicalize specifier (some containing)
      let y := i.canonicalPath specifier dir
      x.events = y.events ∧
      (∀ e, x.value = .error e ↔ y.value = .error e) ∧
      (x.value = .ok none ↔ y.value = .ok none) ∧
      (∀ u, x.value = .ok (some u) ↔ ∃ p, y.value = .ok (some p) ∧ Url.ofFilePath? p = some u) ∧
      (∀ u p, y.value = .ok (some p) → Url.ofFilePath? p = some u →
        i.load u =
          (do return (← i.readSource p false).map fun contents => some (i.sheetAt p u contents))) ∧
      ∀ entryDir, ({ i with entryDir } : Importer).canonicalize specifier (some containing) = x ∧
        ∀ u, ({ i with entryDir } : Importer).load u = i.load u := by
  have hrooted : f.Rooted := Path.rooted_iff.2 ⟨habs, hclean⟩
  obtain ⟨containing, hcontaining⟩ := Url.exists_url_of_isAbsolute habs
  have hfile := hback containing hcontaining
  -- the URL alone tells the importing directory, so the directory of the entry has no say
  have hfrom : ∀ j : Importer, j.importingDir (some containing) = dir :=
    fun j => j.importingDir_of_toFilePath? hfile hdir
  have hx : i.canonicalize specifier (some containing) = i.canonicalUrl specifier dir := by
    rw [canonicalize, hfrom]
  have hanswers : ∀ p, (i.canonicalPath specifier dir).value = .ok (some p) →
      p.isAbsolute = true :=
    fun p hp => i.isAbsolute_of_canonicalPath hroots (hrooted.parent? hdir).isAbsolute hp
  refine ⟨containing, hcontaining, ?_⟩
  rw [hx]
  refine ⟨i.events_canonicalUrl specifier dir, fun e => i.canonicalUrl_eq_error_iff,
    i.canonicalUrl_eq_none_iff hanswers, fun u => i.canonicalUrl_eq_some_iff, ?_, ?_⟩
  · intro u p hp hu
    exact i.load_of_toFilePath? (hanswer p hp u hu)
  · intro entryDir
    constructor
    · rw [canonicalize, hfrom, canonicalUrl, canonicalPath_entryDir]
      rfl
    · intro u
      rfl

theorem canonicalize_ofFilePath?_themes :
    (∀ root ∈ (themesImporter [.ofString "/app"]).config.searchRoots, root.isAbsolute = true) ∧
      (Path.ofString "/lib/main.scss").isAbsolute = true ∧
      (Path.ofString "/lib/main.scss").clean = .ofString "/lib/main.scss" ∧
      (Path.ofString "/lib/main.scss").parent? = some (.ofString "/lib") ∧
      Url.LeadsBack (.ofString "/lib/main.scss") ∧ Url.LeadsBack themeIndex ∧
      ∃ containing, Url.ofFilePath? (.ofString "/lib/main.scss") = some containing ∧
        ((themesImporter [.ofString "/app"]).canonicalize "base theme" (some containing)).value
          = .ok (some themeIndexUrl) := by
  have hroots : ∀ root ∈ (themesImporter [.ofString "/app"]).config.searchRoots,
      root.isAbsolute = true := by
    decide +kernel
  have habs : (Path.ofString "/lib/main.scss").isAbsolute = true := by decide +kernel
  have hclean : (Path.ofString "/lib/main.scss").clean = .ofString "/lib/main.scss" := by
    decide +kernel
  have hdir : (Path.ofString "/lib/main.scss").parent? = some (.ofString "/lib") := by
    decide +kernel
  have hback : Url.LeadsBack (.ofString "/lib/main.scss") :=
    (Url.leadsBack_iff (Path.rooted_iff.2 ⟨habs, hclean⟩)).2 (by decide +kernel)
  have hindex : Url.LeadsBack themeIndex :=
    (Url.leadsBack_iff rooted_themeIndex).2 (by decide +kernel)
  have hpath : ((themesImporter [.ofString "/app"]).canonicalPath "base theme"
      (.ofString "/lib")).value = .ok (some themeIndex) := by
    decide +kernel
  have hanswer : ∀ p, ((themesImporter [.ofString "/app"]).canonicalPath "base theme"
      (.ofString "/lib")).value = .ok (some p) → Url.LeadsBack p := by
    intro p hp
    obtain rfl : themeIndex = p := by simpa [hpath] using hp
    exact hindex
  obtain ⟨containing, hcontaining, -, -, -, hfound, -⟩ :=
    canonicalize_ofFilePath? (themesImporter [.ofString "/app"]) hroots habs hclean hdir hback
      "base theme" hanswer
  exact ⟨hroots, habs, hclean, hdir, hback, hindex, containing, hcontaining,
    (hfound themeIndexUrl).2 ⟨themeIndex, hpath, by decide +kernel⟩⟩

end Stylesheet.Importer
