import Stylesheet.FileSystem.Memory
import Stylesheet.Hooks
import Stylesheet.Proofs.Importer.Answers
import Stylesheet.Proofs.Importer.SearchOrder
import Stylesheet.Proofs.Url.FileUrl

set_option autoImplicit false

/-! # URLs of stylesheets are fixed points

What an import leads to has a URL only if it is absolute, and then it is a clean path whose name
stays as it is when its extension is cut off and written again (`rootedSheet_of_canonicalPath`).
So the text of the URL leads to the same file from every directory and whatever the search roots
are, with one check (`canonicalUrl_text`).
-/

namespace Stylesheet

namespace Lookup

variable (fs : FileSystem) {p q : Path}

/-! ## Absolute places -/

/-- A stem and an extension that make a name. The stem is no dot, so cutting the extension off and
writing it again leaves the name as it is. -/
structure Stem (stem e : Name) : Prop where
  step : (stem ++ Name.dot :: e).IsStep
  ne_up : stem ++ Name.dot :: e ≠ Name.up
  ne_here : stem ≠ Name.here
  no_dot : Name.dot ∉ e

/-- A clean absolute path that ends in a stem, a dot and an extension. -/
def RootedSheet (q : Path) : Prop :=
  q.Rooted ∧ ∃ stem e : Name, q.EndsIn (stem ++ Name.dot :: e) ∧ Stem stem e

variable {ns : List Name} {stem e : Name}

/-- The stem of a partial starts with its mark. -/
theorem Stem.partialMark_cons (h : Stem stem e) : Stem (partialMark :: stem) e where
  step := h.step.partialMark_cons
  ne_up := by simp [Name.up, partialMark, Name.dot]
  ne_here := by simp [Name.here, partialMark, Name.dot]
  no_dot := h.no_dot

theorem rootedSheet_spell (hns : ∀ m ∈ ns, m.IsStep ∧ m ≠ Name.up) (h : Stem stem e) :
    RootedSheet (Anchor.root.spell (ns ++ [stem ++ Name.dot :: e])) :=
  ⟨Path.rooted_spell_concat hns h.step h.ne_up, stem, e,
    ⟨h.step, h.ne_up, .root, ns, fun m hm => (hns m hm).1, rfl⟩, h⟩

/-- The partial beside a stylesheet is a stylesheet. -/
theorem rootedSheet_plain_or_partial (hns : ∀ m ∈ ns, m.IsStep ∧ m ≠ Name.up) (h : Stem stem e)
    (hp : p = Anchor.root.spell (ns ++ [stem ++ Name.dot :: e]))
    (hq : q ∈ p :: p.asPartial?.toList) : RootedSheet q := by
  subst hp
  rcases List.mem_cons.1 hq with rfl | hq
  · exact rootedSheet_spell hns h
  · rw [Path.asPartial?_spell (fun m hm => (hns m hm).1) h.step h.ne_up, Option.toList_some,
      List.mem_singleton] at hq
    subst hq
    exact rootedSheet_spell hns h.partialMark_cons

/-- An extension written after a clean absolute path makes it the path of a stylesheet. -/
theorem rootedSheet_of_mem_candidates (hp : p.Rooted) (hq : q ∈ candidates p) : RootedSheet q := by
  obtain ⟨e, he, hq⟩ := List.mem_flatMap.1 hq
  obtain ⟨hne, hsep, hdot⟩ := extensions_fit e he
  obtain ⟨ns, hns, rfl⟩ := hp
  rcases ns.eq_nil_or_concat' with rfl | ⟨before, n, rfl⟩
  · -- behind the root itself the extension is the name
    have hup : [] ++ Name.dot :: e ≠ Name.up := fun h => hdot (by simp [(List.cons.inj h).2])
    have hstem : Stem [] e := ⟨Name.isStep_dot_cons hne hsep, hup, by decide, hdot⟩
    exact rootedSheet_plain_or_partial hns hstem rfl hq
  · obtain ⟨hn, -⟩ := hns n (by simp)
    have hbefore : ∀ m ∈ before, m.IsStep ∧ m ≠ Name.up := fun m hm => hns m (by simp [hm])
    have hdotted : Path.separator ∉ Name.dot :: e := by
      simpa [Name.dot, Path.separator] using hsep
    have hstem : Stem n e := ⟨hn.append hdotted, hn.append_dot_ne_up e, hn.ne_here, hdot⟩
    exact rootedSheet_plain_or_partial hbefore hstem
      (Path.appendExtension_spell .root before n e) hq

/-- The index of a clean absolute directory. -/
theorem rooted_index (hp : p.Rooted) : (p.join ⟨indexName⟩).Rooted := by
  obtain ⟨ns, hns, rfl⟩ := hp
  have hup : indexName ≠ Name.up := by decide +kernel
  rw [Path.join_spell (fun m hm => (hns m hm).1) isStep_indexName]
  exact Path.rooted_spell_concat hns isStep_indexName hup

/-- **Every place tried for a clean absolute path is the clean absolute path of a stylesheet.** -/
theorem rootedSheet_of_mem_places (hp : p.Rooted) (hq : q ∈ places fs p) : RootedSheet q := by
  unfold places at hq
  cases he : p.extension? with
  | some e =>
      rw [he] at hq
      obtain ⟨ns, hns, rfl⟩ := hp
      rcases ns.eq_nil_or_concat' with rfl | ⟨before, n, rfl⟩
      · cases he
      · obtain ⟨hn, hup⟩ := hns n (by simp)
        have hbefore : ∀ m ∈ before, m.IsStep ∧ m ≠ Name.up := fun m hm => hns m (by simp [hm])
        have hsteps : ∀ m ∈ before, m.IsStep := fun m hm => (hbefore m hm).1
        obtain ⟨stem, hsplit⟩ : ∃ stem, n.splitExtension = (stem, some e) := by
          rw [Path.extension?, Path.fileName?_spell hsteps hn hup] at he
          exact ⟨_, Prod.ext rfl he⟩
        obtain ⟨hstep, hname⟩ := Path.isStep_stem_append hn hsplit
        have hhere : (if stem = Name.here then Name.up else stem) ≠ Name.here := by
          split
          · decide
          · assumption
        have hstem : Stem (if stem = Name.here then Name.up else stem) e :=
          ⟨hstep, hname, hhere, (Name.eq_of_splitExtension hsplit).2.2⟩
        exact rootedSheet_plain_or_partial hbefore hstem
          (Path.appendExtension_withoutExtension_spell hsteps hn hup hsplit) hq
  | none =>
      rw [he] at hq
      obtain ⟨s, hs, hq⟩ := mem_of_mem_stagePlaces fs hq
      rcases List.mem_pair.1 hs with rfl | rfl
      · exact rootedSheet_of_mem_candidates hp hq
      · exact rootedSheet_of_mem_candidates (rooted_index hp) hq

theorem isAbsolute_appendExtension (p : Path) (e : Name) :
    (p.appendExtension e).isAbsolute = p.isAbsolute := by
  obtain ⟨bs⟩ := p
  cases bs with
  | nil => rfl
  | cons b bs => rfl

theorem isAbsolute_plain_or_partial {n : Name} (h : p.EndsIn n)
    (hq : q ∈ p :: p.asPartial?.toList) : q.isAbsolute = p.isAbsolute := by
  rcases List.mem_cons.1 hq with rfl | hq
  · rfl
  · obtain ⟨hn, hup, a, ns, hns, rfl⟩ := h
    rw [Path.asPartial?_spell hns hn hup, Option.toList_some, List.mem_singleton] at hq
    subst hq
    rw [Path.isAbsolute_eq, Path.isAbsolute_eq, Path.anchor_spell (Path.steps_concat hns hn),
      Path.anchor_spell (Path.steps_concat hns hn.partialMark_cons)]

theorem isAbsolute_of_mem_candidates (hp : p.Tidy) (hq : q ∈ candidates p) :
    q.isAbsolute = p.isAbsolute := by
  obtain ⟨e, he, hq⟩ := List.mem_flatMap.1 hq
  obtain ⟨hne, hsep, hdot⟩ := extensions_fit e he
  obtain ⟨stem, hend⟩ := hp.appendExtension hne hsep hdot
  rw [isAbsolute_plain_or_partial hend hq, isAbsolute_appendExtension]

/-- Whether a path is absolute shows in the places tried for it. -/
theorem isAbsolute_of_mem_places (hp : p.Tidy) (hq : q ∈ places fs p) :
    q.isAbsolute = p.isAbsolute := by
  unfold places at hq
  cases he : p.extension? with
  | some e =>
      rw [he] at hq
      obtain ⟨n, stem, hend, hsplit⟩ := hp.endsIn_of_extension? he
      rw [isAbsolute_plain_or_partial (hend.appendExtension_withoutExtension hsplit).1 hq]
      obtain ⟨hn, hup, a, ns, hns, rfl⟩ := hend
      have hstep := (Path.isStep_stem_append hn hsplit).1
      rw [Path.appendExtension_withoutExtension_spell hns hn hup hsplit, Path.isAbsolute_eq,
        Path.isAbsolute_eq, Path.anchor_spell (Path.steps_concat hns hn),
        Path.anchor_spell (Path.steps_concat hns hstep)]
  | none =>
      rw [he] at hq
      obtain ⟨s, hs, hq⟩ := mem_of_mem_stagePlaces fs hq
      rcases List.mem_pair.1 hs with rfl | rfl
      · exact isAbsolute_of_mem_candidates hp hq
      · rw [isAbsolute_of_mem_candidates (tidy_index hp) hq, Path.isAbsolute_join,
          Path.isAbsolute_step isStep_indexName, Bool.or_false]

/-! ## Looking up an absolute place -/

/-- **The path of a stylesheet is looked up with one check**, from every directory. -/
theorem fromDirectory_rootedSheet (h : RootedSheet p) (hext : p.extension? ≠ none)
    (hfound : fs.found p = true) (dir : Path) :
    fromDirectory fs dir p = ⟨some p, [.probed p]⟩ := by
  obtain ⟨hrooted, stem, e, hend, hstem⟩ := h
  have hne : stem ≠ [] := by
    rintro rfl
    exact hext (by rw [hend.extension?, List.nil_append, Name.splitExtension_dot_cons hstem.no_dot])
  have hsplit := Name.splitExtension_append hne hstem.no_dot
  have he : p.extension? = some e := by rw [hend.extension?, hsplit]
  have hplain := (hend.appendExtension_withoutExtension hsplit).2 hstem.ne_here
  rw [fromDirectory, Path.join_absolute hrooted.isAbsolute, hrooted.clean]
  simp only [he, withExtension, hplain, firstFound]
  refine Traced.ext ?_ ?_
  · simp [hfound]
  · simp [hfound]

end Lookup

namespace Importer

variable (i : Importer) {specifier : String} {dir p : Path}

@[simp] theorem value_canonicalUrl (specifier : String) (dir : Path) :
    (i.canonicalUrl specifier dir).value =
      (i.canonicalPath specifier dir).value.map (· >>= Url.ofFilePath?) := rfl

@[simp] theorem events_canonicalUrl (specifier : String) (dir : Path) :
    (i.canonicalUrl specifier dir).events = (i.canonicalPath specifier dir).events :=
  List.append_nil _

/-- **What an import leads to, if it is absolute, is the clean absolute path of a stylesheet.** -/
theorem rootedSheet_of_canonicalPath (h : (i.canonicalPath specifier dir).value = .ok (some p))
    (habs : p.isAbsolute = true) : Lookup.RootedSheet p := by
  obtain ⟨q, -, hp, -⟩ := i.mem_placesTried_of_canonicalPath h
  obtain ⟨d, -, hp⟩ := List.mem_flatMap.1 hp
  have hplace := Lookup.isAbsolute_of_mem_places i.fs (Path.clean_tidy _) hp
  rw [habs, Path.isAbsolute_clean] at hplace
  exact Lookup.rootedSheet_of_mem_places i.fs (Path.clean_rooted hplace.symm) hp

/-- **The URL of a stylesheet is a fixed point.** Whatever led to the stylesheet, the text of its
URL leads to it with one check and without a package lookup: from every directory, with any search
roots and packages, as long as no hook redirects it and nothing in it looks like a package. -/
theorem canonicalUrl_text {i j : Importer} (hfs : j.fs = i.fs)
    (hredirect : j.config.redirect = none) {u : Url}
    (hp : (i.canonicalPath specifier dir).value = .ok (some p))
    (hu : (i.canonicalUrl specifier dir).value = .ok (some u)) (hext : p.extension? ≠ none)
    (hmark : ¬ embeddedMark <:+: p.display.toList) (hreads : Url.ReadsBack p) (d : Path) :
    j.canonicalUrl u.text d = ⟨.ok (some u), [.probed p]⟩ := by
  obtain ⟨-, -, -, hfound⟩ := i.mem_placesTried_of_canonicalPath hp
  rw [← hfs] at hfound
  have hurl : Url.ofFilePath? p = some u := by
    rw [value_canonicalUrl, hp] at hu
    exact Except.ok.inj hu
  have hsheet := i.rootedSheet_of_canonicalPath hp (Url.isAbsolute_of_ofFilePath? hurl)
  obtain ⟨v, hparse, hback⟩ := hreads u hurl
  have hmeans : Means u.text d (.path p) :=
    .file (Url.isPrefix_of_ofFilePath? hurl) hparse hback hmark
  -- the path has its extension already, so it is itself the first place tried for it
  have hsearch : j.searchIn p (j.searchDirs d p) = ⟨some p, [.probed p]⟩ := by
    rw [searchDirs, searchIn, Lookup.fromDirectory_rootedSheet j.fs hsheet hext hfound]
    rfl
  have hpath : j.canonicalPath u.text d = ⟨.ok (some p), [.probed p]⟩ := by
    rw [j.canonicalPath_of_path hmeans rfl, Config.redirected, hredirect]
    refine Traced.ext ?_ ?_
    · simp [hsearch]
    · simp [hsearch, Meaning.reading, Meaning.lookups]
  refine Traced.ext ?_ ?_
  · rw [value_canonicalUrl, hpath, ← hurl]
    rfl
  · rw [events_canonicalUrl, hpath]

/-- A directory whose stylesheet is a partial. -/
def themes : MemoryFs := MemoryFs.empty.addFile (.ofString "/app/base theme/_index.scss") ""

/-- An importer that finds its stylesheets in search roots. -/
def themesImporter (roots : List Path) : Importer :=
  ⟨{ packages := PackageResolver.none, searchRoots := roots }, themes.toFileSystem, .ofString "/"⟩

def themeIndex : Path := .ofString "/app/base theme/_index.scss"

def themeIndexUrl : Url :=
  .ofNames [.ofString "app", .ofString "base theme", .ofString "_index.scss"]

theorem rooted_themeIndex : themeIndex.Rooted :=
  Path.rooted_iff.2 ⟨by decide +kernel, by decide +kernel⟩

theorem canonicalUrl_text_themes :
    ((themesImporter [.ofString "/app"]).canonicalPath "base theme" (.ofString "/lib")).value
        = .ok (some themeIndex) ∧
      ((themesImporter [.ofString "/app"]).canonicalUrl "base theme" (.ofString "/lib")).value
        = .ok (some themeIndexUrl) ∧
      themeIndex.extension? ≠ none ∧ ¬ embeddedMark <:+: themeIndex.display.toList ∧
      Url.ReadsBack themeIndex ∧
      (themesImporter []).canonicalUrl themeIndexUrl.text (.ofString "/lib")
        = ⟨.ok (some themeIndexUrl), [.probed themeIndex]⟩ := by
  have hpath : ((themesImporter [.ofString "/app"]).canonicalPath "base theme"
      (.ofString "/lib")).value = .ok (some themeIndex) := by
    decide +kernel
  have hurl : ((themesImporter [.ofString "/app"]).canonicalUrl "base theme"
      (.ofString "/lib")).value = .ok (some themeIndexUrl) := by
    decide +kernel
  have hext : themeIndex.extension? ≠ none := by decide +kernel
  have hmark : ¬ embeddedMark <:+: themeIndex.display.toList := by decide +kernel
  have hreads : Url.ReadsBack themeIndex :=
    (Url.readsBack_iff rooted_themeIndex).2 (by decide +kernel)
  have hfs : (themesImporter []).fs = (themesImporter [.ofString "/app"]).fs := rfl
  have hredirect : (themesImporter []).config.redirect = none := rfl
  exact ⟨hpath, hurl, hext, hmark, hreads,
    canonicalUrl_text hfs hredirect hpath hurl hext hmark hreads (.ofString "/lib")⟩

end Importer

end Stylesheet
