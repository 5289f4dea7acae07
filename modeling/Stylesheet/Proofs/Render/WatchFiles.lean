import Stylesheet.Hooks
import Stylesheet.Proofs.Compile.Expansion
import Stylesheet.Proofs.Dependency.Reachability
import Stylesheet.Render.Renderer

set_option autoImplicit false

/-! # The files that a render watches

A render lists the files that its compiler loaded, each at its first place. With the compiler that
inlines imports these are the files that a search for the entry's stylesheets finds, in the same
order (`watchFiles_eq_files`): the compiler unfolds the imports without remembering anything, the
search visits no file twice, and on a project of plain stylesheets (`PlainProject`) both read the
same imports. Only the entry may be read in two roles; `EntryFirst` is what this asks of the hook
that preprocesses it, and with another hook the search may miss files (`watchFiles_twoFaces`).
Plain CSS has to be plain as the hook leaves it, since a compiler reads on in it where the search
stops (`watchFiles_themed`).
-/

namespace Stylesheet.Dependency

/-- A project of plain stylesheets, each with a URL of its own, as far as an entry reaches. Texts
count as the hook leaves them, and the entry's as that of an entry. -/
structure PlainProject (i : Importer) (entry : Path) : Prop where
  sheets : ∀ file text, Relation.ReflTransGen (Imports i entry) entry file →
    (i.readSource file (file = entry)).value = .ok text → Scan.PlainSheet (.ofPath file) text
  urls : ∀ file, Relation.ReflTransGen (Imports i entry) entry file →
    ∀ url, Url.ofFilePath? file = some url → url.toFilePath? = some file

/-- The files that some file reached from the entry imports. -/
def ImportedSomewhere (i : Importer) (entry file : Path) : Prop :=
  ∃ u, Relation.ReflTransGen (Imports i entry) entry u ∧ Imports i entry u file

/-- A hook may tell an entry from an import. If the entry is imported again, what it imports then
is to be what it imports first as the entry. -/
def EntryFirst (i : Importer) (entry : Path) : Prop :=
  ImportedSomewhere i entry entry →
    ∀ text text', (i.readSource entry true).value = .ok text →
      (i.readSource entry false).value = .ok text' →
        Scan.importSpecs text' <+: Scan.importSpecs text

variable {i : Importer} {entry : Path}

/-- Nothing is asked of a hook that does not tell an entry from an import. -/
theorem entryFirst_of_readSource_eq
    (h : (i.readSource entry true).value = (i.readSource entry false).value) :
    EntryFirst i entry := by
  intro _ text text' htext htext'
  obtain rfl : text = text' := Except.ok.inj (htext.symm.trans (h.trans htext'))
  exact List.prefix_rfl

/-- Nor of one that lets the entry import nothing where it is imported. -/
theorem entryFirst_of_importSpecs_eq_nil
    (h : ∀ text, (i.readSource entry false).value = .ok text → Scan.importSpecs text = []) :
    EntryFirst i entry := by
  intro _ text text' _ htext'
  rw [h text' htext']
  exact List.nil_prefix

theorem ImportedSomewhere.reached {file : Path} (h : ImportedSomewhere i entry file) :
    Relation.ReflTransGen (Imports i entry) entry file := by
  obtain ⟨u, hu, himports⟩ := h
  exact hu.tail himports

theorem ImportedSomewhere.child? {file : Path} (h : ImportedSomewhere i entry file) :
    ∃ u specifier, child? i u specifier = some file := by
  obtain ⟨u, -, himports⟩ := h
  obtain ⟨specifier, -, hchild⟩ := List.mem_filterMap.1 (mem_imported_iff.2 himports)
  exact ⟨u, specifier, hchild⟩

namespace PlainProject

/-- The specifiers that the scanner finds in a file are those on its lines. -/
theorem specifiers_eq (h : PlainProject i entry) {file : Path} {text : String}
    (hfile : Relation.ReflTransGen (Imports i entry) entry file)
    (htext : (i.readSource file (file = entry)).value = .ok text) :
    specifiers i entry file = Scan.importSpecs text := by
  have hplain := h.sheets file text hfile htext
  unfold specifiers scan
  rw [htext]
  by_cases hcss : Dialect.ofPath file = .css
  · rw [hcss] at hplain ⊢
    rw [if_pos rfl, hplain.importSpecs_css]
  · rw [if_neg hcss]
    exact hplain.scanImports hcss

/-- A file other than the entry leads to the same files in both ways. -/
theorem imported_eq_inlined (h : PlainProject i entry) {file : Path}
    (hfile : Relation.ReflTransGen (Imports i entry) entry file) (hne : file ≠ entry) :
    imported i entry file = inlined i file := by
  have hflag : decide (file = entry) = false := decide_eq_false hne
  unfold imported inlined
  cases hr : (i.readSource file false).value with
  | ok text =>
      rw [h.specifiers_eq hfile (by rwa [hflag])]
  | error e =>
      have hnone : specifiers i entry file = [] := by
        unfold specifiers scan
        rw [hflag, hr]
        simp [Except.map]
      rw [hnone]
      rfl

/-- An entry that is imported again leads to the first of the files that it leads to as the
entry. -/
theorem inlined_isPrefix (h : PlainProject i entry) (hfirst : EntryFirst i entry)
    (hagain : ImportedSomewhere i entry entry) {text : String}
    (htext : (i.readSource entry true).value = .ok text) :
    inlined i entry <+: imported i entry entry := by
  have hflag : decide (entry = entry) = true := decide_eq_true rfl
  unfold imported inlined
  rw [h.specifiers_eq .refl (by rwa [hflag])]
  cases hr : (i.readSource entry false).value with
  | ok text' => exact (hfirst hagain text text' htext hr).filterMap _
  | error e => exact List.nil_prefix

/-- All that is met when imports are inlined can be inlined. -/
theorem inlinable (h : PlainProject i entry) (hfirst : EntryFirst i entry) {text : String}
    (htext : (i.readSource entry true).value = .ok text) :
    Inlinable i (ImportedSomewhere i entry) where
  closed file hfile q hq := by
    refine ⟨file, hfile.reached, mem_imported_iff.1 ?_⟩
    by_cases hne : file = entry
    · subst hne
      exact (h.inlined_isPrefix hfirst hfile htext).subset hq
    · rwa [h.imported_eq_inlined hfile.reached hne]
  url file hfile := h.urls file hfile.reached
  parent file hfile := by
    obtain ⟨u, specifier, hchild⟩ := hfile.child?
    obtain ⟨-, stem, e, hend, -⟩ := sheetName_of_child? i hchild
    exact hend.parent?

/-- An entry that expands is inlined from its own lines on. -/
theorem exists_inlines (h : PlainProject i entry) (hfirst : EntryFirst i entry) {source : String}
    (hsource : (i.readSource entry true).value = .ok source) {url : Url}
    (hurl : Url.ofFilePath? entry = some url) {depth : Nat} {e : Expansion}
    (he : LineCompiler.outcome (InlineCompiler.expand { i with entryDir := entry.parentOrSelf }
      depth source url) = .ok e) :
    ∃ met, Inlines i (ImportedSomewhere i entry) entry (Scan.importSpecs source) e met := by
  have hurl' : url.toFilePath? = some entry := h.urls entry .refl url hurl
  have hdir : ({ i with entryDir := entry.parentOrSelf } : Importer).importingDir (some url)
      = entry.parentOrSelf := by
    simp only [Importer.importingDir, Option.bind_eq_bind, Option.bind_some, hurl']
    cases hp : entry.parent? with
    | none => rfl
    | some dir => simp [Path.parentOrSelf, hp]
  have hkids : ∀ q ∈ (Scan.importSpecs source).filterMap (Dependency.child? i entry),
      ImportedSomewhere i entry q := by
    intro q hq
    have hflag : decide (entry = entry) = true := decide_eq_true rfl
    refine ⟨entry, .refl, mem_imported_iff.1 ?_⟩
    rw [imported, h.specifiers_eq .refl (by rwa [hflag])]
    exact hq
  exact expand_inlines (h.inlinable hfirst hsource) entry.parentOrSelf depth source url entry e hdir
    hkids he

end PlainProject

theorem told_of_allLead {file : Path} (h : AllLead i file (specifiers i entry file)) :
    told i entry file = [] := by
  refine List.filterMap_eq_nil_iff.2 fun s hs => ?_
  obtain ⟨q, hq⟩ := h s hs
  rw [unresolved?, hq]

/-- Listing tidy paths once each goes by equality. -/
theorem distinct_eq_once {paths : List Path} (h : ∀ p ∈ paths, p.Tidy) :
    Renderer.distinct paths = once [] paths := by
  -- for whatever was listed before, as long as it is tidy, too
  have key : ∀ (seen met : List Path), (∀ p ∈ seen, p.Tidy) → (∀ p ∈ met, p.Tidy) →
      met.foldl (fun seen p => if seen.any (·.same p) then seen else seen ++ [p]) seen
        = once seen met := by
    intro seen met hseen hmet
    induction met generalizing seen with
    | nil => rfl
    | cons p met ih =>
        have hp : p.Tidy := hmet p (by simp)
        have hnext : ∀ q ∈ (if p ∈ seen then seen else seen ++ [p]), q.Tidy := by
          intro q hq
          split at hq
          · exact hseen q hq
          · rcases List.mem_append.1 hq with hq | hq
            · exact hseen q hq
            · exact List.mem_singleton.1 hq ▸ hp
        rw [List.foldl_cons, once_cons, ← ih _ hnext fun q hq => hmet q (by simp [hq])]
        simp only [Path.any_same_iff hseen hp]
  exact key [] paths (by simp) h

/-! ## Renders -/

variable {config : Config} {fs : FileSystem} {entryDir : Path} {c : InlineCompiler} {depth : Nat}
  {result : RenderResult}

/-- What a render of plain CSS watches. -/
theorem watchFiles_of_render_css (hcss : Dialect.ofPath entry = .css)
    (hrender : ((⟨config, c.compile depth, fs⟩ : Renderer).render entry).value = .ok result) :
    result.watchFiles = [entry] := by
  rw [Renderer.render] at hrender
  simp only [hcss, if_true, Traced.value_pure, Renderer.renderPlain] at hrender
  cases hread : fs.read entry with
  | error e =>
      rw [hread] at hrender
      cases hrender
  | ok css =>
      rw [hread] at hrender
      cases hrender
      rfl

/-- What another render watches. -/
theorem exists_expansion_of_render (hcss : Dialect.ofPath entry ≠ .css)
    (hrender : ((⟨config, c.compile depth, fs⟩ : Renderer).render entry).value = .ok result) :
    ∃ url source e, Url.ofFilePath? entry = some url ∧
      ((⟨config, fs, entryDir⟩ : Importer).readSource entry true).value = .ok source ∧
      LineCompiler.outcome (InlineCompiler.expand ⟨config, fs, entry.parentOrSelf⟩ depth source url)
        = .ok e ∧
      result.watchFiles = Renderer.watchFiles entry e.loaded := by
  rw [Renderer.render] at hrender
  simp only [hcss, if_false] at hrender
  cases hurl : Url.ofFilePath? entry with
  | none =>
      rw [hurl] at hrender
      cases hrender
  | some url =>
      rw [hurl] at hrender
      simp only [Traced.value_bind] at hrender
      show ∃ _ source e, _ ∧
        ((⟨config, fs, entry.parentOrSelf⟩ : Importer).readSource entry true).value = .ok source ∧ _
      cases hread : ((⟨config, fs, entry.parentOrSelf⟩ : Importer).readSource entry true).value with
      | error e =>
          rw [Renderer.importer, hread] at hrender
          cases hrender
      | ok source =>
          rw [Renderer.importer, hread] at hrender
          simp only [Renderer.compile, Traced.value_bind, Traced.heardBy, Renderer.importer,
            InlineCompiler.compile, Traced.value_pure] at hrender
          cases he : LineCompiler.outcome
              (InlineCompiler.expand ⟨config, fs, entry.parentOrSelf⟩ depth source url) with
          | error e =>
              rw [LineCompiler.outcome] at he
              rw [he] at hrender
              cases hrender
          | ok e =>
              rw [LineCompiler.outcome] at he
              rw [he] at hrender
              cases hrender
              exact ⟨url, source, e, rfl, rfl, he, rfl⟩

/-- What was loaded are the files that were met. -/
theorem Inlines.filterMap_loaded {S : Path → Prop} {file : Path} {specs : List String}
    {e : Expansion} {met : List Path} (h : Inlines i S file specs e met) :
    e.loaded.filterMap Url.toFilePath? = met := by
  have hpaths : (e.loaded.map Url.toFilePath?).filterMap id = (met.map some).filterMap id := by
    rw [h.loaded]
  simpa [List.filterMap_map] using hpaths

theorem Inlines.tidy {file : Path} {specs : List String} {e : Expansion} {met : List Path}
    (h : Inlines i (ImportedSomewhere i entry) file specs e met) {p : Path} (hp : p ∈ met) :
    p.Tidy := by
  obtain ⟨u, -, himports⟩ := h.inlinable p hp
  exact (imported_found (mem_imported_iff.2 himports)).2

/-- A search in a project that was inlined from the entry on visits the files that were met, each
at its first place. -/
theorem visits_of_inlines (h : PlainProject i entry) (hfirst : EntryFirst i entry)
    {source : String} (hsource : (i.readSource entry true).value = .ok source) {e : Expansion}
    {met : List Path}
    (hmet : Inlines i (ImportedSomewhere i entry) entry (Scan.importSpecs source) e met) :
    Visits (imported i entry) [entry] [] (once [] (entry :: met)) := by
  have hflag : decide (entry = entry) = true := decide_eq_true rfl
  have hunfolds : Unfolds (inlined i) (imported i entry entry) met := by
    rw [imported, h.specifiers_eq .refl (by rwa [hflag])]
    exact hmet.unfolds
  -- only the entry may lead to less where it is met again
  refine hunfolds.visits_from (fun v hv hne => ?_) fun hv => ?_
  · exact h.imported_eq_inlined (hmet.inlinable v hv).reached hne
  · exact h.inlined_isPrefix hfirst (hmet.inlinable entry hv) hsource

/-- In a project that was inlined every import leads somewhere. -/
theorem told_of_inlines (h : PlainProject i entry) {source : String}
    (hsource : (i.readSource entry true).value = .ok source) {e : Expansion} {met : List Path}
    (hmet : Inlines i (ImportedSomewhere i entry) entry (Scan.importSpecs source) e met)
    {file : Path} (hfile : file ∈ entry :: met) : told i entry file = [] := by
  by_cases hentry : file = entry
  · have hflag : decide (entry = entry) = true := decide_eq_true rfl
    have hspecs := h.specifiers_eq .refl (by rwa [hflag])
    rw [hentry]
    exact told_of_allLead (hspecs ▸ hmet.allLead)
  · have hin : file ∈ met := (List.mem_cons.1 hfile).resolve_left hentry
    obtain ⟨text, htext, hlead⟩ := hmet.readable file hin
    have hflag : decide (file = entry) = false := decide_eq_false hentry
    have hspecs := h.specifiers_eq (hmet.inlinable file hin).reached (by rwa [hflag])
    exact told_of_allLead (hspecs ▸ hlead)

/-- Plain CSS imports nothing. -/
theorem specifiers_css {file : Path} (hcss : Dialect.ofPath file = .css) :
    specifiers i entry file = [] := if_pos hcss

/-- **A search finds what a render watches.** Where the compiler that inlines imports renders the
entry of a project of plain stylesheets, the files watched are those that a search with empty
caches finds, in the same order, and every import leads somewhere. -/
theorem watchFiles_eq_files (m : MemoryFs) (config : Config) (entryDir entry : Path)
    (hclean : entry.clean = entry)
    (hproject : PlainProject ⟨config, m.toFileSystem, entryDir⟩ entry)
    (hfirst : EntryFirst ⟨config, m.toFileSystem, entryDir⟩ entry) (c : InlineCompiler)
    (depth : Nat) (result : RenderResult)
    (hrender : ((⟨config, c.compile depth, m.toFileSystem⟩ : Renderer).render entry).value
      = .ok result) :
    ∃ deps, (reachable ⟨config, m.toFileSystem, entryDir⟩ entry .empty).value.1 = .ok deps ∧
      result.watchFiles = deps.files ∧ deps.unresolved = [] := by
  generalize hi : (⟨config, m.toFileSystem, entryDir⟩ : Importer) = i at hproject hfirst ⊢
  have hfs : i.fs.WithinCapacity := hi ▸ m.withinCapacity
  have hentry : entry.Tidy := Path.tidy_of_clean_eq hclean
  -- plain CSS is not compiled, and a search stops at it: only the entry is watched and found
  by_cases hcss : Dialect.ofPath entry = .css
  · have hone : Visits (imported i entry) [entry] [] [entry] := by
      refine .look (by simp) ?_
      rw [imported, specifiers_css hcss]
      exact .done _
    obtain ⟨files, hvisits, hreach⟩ := reachable_eq hfs hentry (Or.inl hcss)
    rw [hvisits.unique hone] at hreach
    refine ⟨_, hreach, watchFiles_of_render_css hcss hrender, ?_⟩
    simp [told, specifiers_css hcss]
  · obtain ⟨url, source, e, hurl, hsource, he, hwatch⟩ :=
      @exists_expansion_of_render _ _ _ entryDir _ _ _ hcss hrender
    subst hi
    -- the files that the compiler met, each at its first place, are the visits of the search
    obtain ⟨met, hmet⟩ := hproject.exists_inlines hfirst hsource hurl he
    have hvisits' := visits_of_inlines hproject hfirst hsource hmet
    obtain ⟨files, hvisits, hreach⟩ := reachable_eq hfs hentry (Or.inr ⟨source, hsource⟩)
    rw [hvisits.unique hvisits'] at hreach
    have htidy : ∀ p ∈ entry :: met, p.Tidy := by
      intro p hp
      rcases List.mem_cons.1 hp with rfl | hp
      · exact hentry
      · exact hmet.tidy hp
    refine ⟨_, hreach, ?_, ?_⟩
    · calc result.watchFiles
          = Renderer.watchFiles entry e.loaded := hwatch
        _ = Renderer.distinct (entry :: met) := by rw [Renderer.watchFiles, hmet.filterMap_loaded]
        _ = once [] (entry :: met) := distinct_eq_once htidy
    · refine List.flatMap_eq_nil_iff.2 fun file hfile => ?_
      exact told_of_inlines hproject hsource hmet ((mem_once.1 hfile).resolve_left (by simp))

/-- Whether a project is plain can be seen from the files that a search finds. -/
theorem plainProject_of_reachable (hfs : i.fs.WithinCapacity) (hentry : entry.Tidy)
    (hread : Readable i entry) {deps : EntryDeps}
    (hdeps : (reachable i entry .empty).value.1 = .ok deps)
    (hsheets : ∀ file ∈ deps.files, ∀ text ∈ (i.readSource file (file = entry)).value.toOption,
      Scan.PlainSheet (.ofPath file) text)
    (hurls : ∀ file ∈ deps.files, ∀ url ∈ Url.ofFilePath? file, url.toFilePath? = some file) :
    PlainProject i entry := by
  obtain ⟨files, hvisits, hreach⟩ := reachable_eq hfs hentry hread
  cases hreach.symm.trans hdeps
  have hmem := (complete_of_visits hentry hvisits).files
  constructor
  · intro file text hfile htext
    exact hsheets file ((hmem file).2 hfile) text (by simp [htext, Except.toOption])
  · intro file hfile url hurl
    exact hurls file ((hmem file).2 hfile) url hurl

/-- A project in which two stylesheets import a third, and one of them the entry again. -/
def diamond : MemoryFs :=
  (((MemoryFs.empty.addFile (.ofString "/app/main.scss")
    "@import \"a\";\n@import \"b\";\n$size: 1;\n").addFile (.ofString "/app/_a.scss")
    "@import \"c\";\r\n\n@import \"main\";\n").addFile (.ofString "/app/b.sass")
    "@import \"c\";").addFile (.ofString "/app/c.css") "em: 1\n"

def diamondConfig : Config where
  packages := PackageResolver.none
  preprocess := some fun content p isEntry =>
    .ok (if isEntry || p ≠ .ofString "/app/main.scss" then content else "")

def diamondImporter : Importer := ⟨diamondConfig, diamond.toFileSystem, .ofString "/"⟩

def diamondRenderer : Renderer := ⟨diamondConfig, InlineCompiler.compile {} 4, diamond.toFileSystem⟩

theorem reachable_diamond :
    (reachable diamondImporter (.ofString "/app/main.scss") .empty).value.1 = .ok
      ⟨.ofString "/app/main.scss", [.ofString "/app/main.scss", .ofString "/app/_a.scss",
        .ofString "/app/c.css", .ofString "/app/b.sass"], []⟩ := by
  decide +kernel

theorem plainProject_diamond : PlainProject diamondImporter (.ofString "/app/main.scss") := by
  have hentry : (Path.ofString "/app/main.scss").Tidy := Path.tidy_of_clean_eq rfl
  have hread : Readable diamondImporter (.ofString "/app/main.scss") :=
    Or.inr ⟨"@import \"a\";\n@import \"b\";\n$size: 1;\n", rfl⟩
  exact plainProject_of_reachable diamond.withinCapacity hentry hread reachable_diamond
    (by decide) (by decide)

theorem entryFirst_diamond : EntryFirst diamondImporter (.ofString "/app/main.scss") := by
  refine entryFirst_of_importSpecs_eq_nil fun text htext => ?_
  have hnone : (diamondImporter.readSource (.ofString "/app/main.scss") false).value = .ok "" := rfl
  rw [hnone] at htext
  cases htext
  rfl

theorem watchFiles_eq_files_diamond :
    (Path.ofString "/app/main.scss").clean = .ofString "/app/main.scss" ∧
      PlainProject diamondImporter (.ofString "/app/main.scss") ∧
      EntryFirst diamondImporter (.ofString "/app/main.scss") ∧
      ∃ result, (diamondRenderer.render (.ofString "/app/main.scss")).value = .ok result ∧
        ∃ deps, (reachable diamondImporter (.ofString "/app/main.scss") .empty).value.1 = .ok deps ∧
          result.watchFiles = deps.files ∧ deps.unresolved = [] := by
  have hclean : (Path.ofString "/app/main.scss").clean = .ofString "/app/main.scss" := rfl
  have hok : (diamondRenderer.render (.ofString "/app/main.scss")).value.isOk = true := by
    decide +kernel
  cases hrender : (diamondRenderer.render (.ofString "/app/main.scss")).value with
  | error e =>
      rw [hrender] at hok
      cases hok
  | ok result =>
      exact ⟨hclean, plainProject_diamond, entryFirst_diamond, result, rfl,
        watchFiles_eq_files diamond diamondConfig (.ofString "/") _ hclean plainProject_diamond
          entryFirst_diamond {} 4 result hrender⟩

/-- A render may be judged by what it watches. -/
theorem exists_watchFiles {outcome : Except Failure RenderResult} {files : List Path}
    (h : outcome.map RenderResult.watchFiles = .ok files) :
    ∃ result, outcome = .ok result ∧ result.watchFiles = files := by
  cases outcome with
  | error e => cases h
  | ok result => exact ⟨result, rfl, Except.ok.inj h⟩

/-- A project in which a stylesheet imports the entry, and a hook that lets the entry import
something else then. -/
def twoFaces : MemoryFs :=
  ((MemoryFs.empty.addFile (.ofString "/app/main.scss") "@import \"a\";\n").addFile
    (.ofString "/app/a.scss") "@import \"main\";\n").addFile (.ofString "/app/b.scss") ""

def twoFacesConfig : Config where
  packages := PackageResolver.none
  preprocess := some fun content p isEntry =>
    .ok (if isEntry || p ≠ .ofString "/app/main.scss" then content else "@import \"b\";\n")

def twoFacesImporter : Importer := ⟨twoFacesConfig, twoFaces.toFileSystem, .ofString "/"⟩

def twoFacesRenderer : Renderer :=
  ⟨twoFacesConfig, InlineCompiler.compile {} 4, twoFaces.toFileSystem⟩

def twoFacesRead : List Path :=
  [.ofString "/app/main.scss", .ofString "/app/a.scss", .ofString "/app/b.scss"]

theorem reachable_twoFaces :
    (reachable twoFacesImporter (.ofString "/app/main.scss") .empty).value.1 = .ok
      ⟨.ofString "/app/main.scss", [.ofString "/app/main.scss", .ofString "/app/a.scss"], []⟩ := by
  decide +kernel

theorem plainSheet_twoFaces : ∀ file ∈ twoFacesRead, ∀ isEntry,
    ∀ text ∈ (twoFacesImporter.readSource file isEntry).value.toOption,
      Scan.PlainSheet (.ofPath file) text := by
  decide

theorem toFilePath?_twoFaces : ∀ file ∈ twoFacesRead, ∀ url ∈ Url.ofFilePath? file,
    url.toFilePath? = some file := by
  decide

theorem plainProject_twoFaces : PlainProject twoFacesImporter (.ofString "/app/main.scss") := by
  have hentry : (Path.ofString "/app/main.scss").Tidy := Path.tidy_of_clean_eq rfl
  have hread : Readable twoFacesImporter (.ofString "/app/main.scss") :=
    Or.inr ⟨"@import \"a\";\n", rfl⟩
  have hfound : ∀ file ∈ [Path.ofString "/app/main.scss", .ofString "/app/a.scss"],
      file ∈ twoFacesRead :=
    fun file hfile => List.mem_append_left [Path.ofString "/app/b.scss"] hfile
  exact plainProject_of_reachable twoFaces.withinCapacity hentry hread reachable_twoFaces
    (fun file hfile => plainSheet_twoFaces file (hfound file hfile) _)
    fun file hfile => toFilePath?_twoFaces file (hfound file hfile)

/-- **A search may miss what a render watches.** `EntryFirst` is asked for with reason: here all
stylesheets are plain in either role, and the render succeeds, but its compiler reads the entry as
an import too and comes to a stylesheet that the search never sees, as that looks into the entry
once and as the entry only. -/
theorem watchFiles_twoFaces :
    (Path.ofString "/app/main.scss").clean = .ofString "/app/main.scss" ∧
      PlainProject twoFacesImporter (.ofString "/app/main.scss") ∧
      (∀ file ∈ twoFacesRead, ∀ isEntry,
        ∀ text ∈ (twoFacesImporter.readSource file isEntry).value.toOption,
          Scan.PlainSheet (.ofPath file) text) ∧
      (∀ file ∈ twoFacesRead, ∀ url ∈ Url.ofFilePath? file, url.toFilePath? = some file) ∧
      (∃ result, (twoFacesRenderer.render (.ofString "/app/main.scss")).value = .ok result ∧
        result.watchFiles = twoFacesRead) ∧
      ∃ deps, (reachable twoFacesImporter (.ofString "/app/main.scss") .empty).value.1 = .ok deps ∧
        deps.files = [.ofString "/app/main.scss", .ofString "/app/a.scss"] := by
  have hwatch : (twoFacesRenderer.render (.ofString "/app/main.scss")).value.map
      RenderResult.watchFiles = .ok twoFacesRead := by
    decide +kernel
  exact ⟨rfl, plainProject_twoFaces, plainSheet_twoFaces, toFilePath?_twoFaces,
    exists_watchFiles hwatch, _, reachable_twoFaces, rfl⟩

/-- A project in which the entry imports plain CSS, where a hook puts an import. -/
def themed : MemoryFs :=
  ((MemoryFs.empty.addFile (.ofString "/app/main.scss") "@import \"a\";\n").addFile
    (.ofString "/app/a.css") "theme;\n").addFile (.ofString "/app/b.scss") ""

def themedConfig : Config where
  packages := PackageResolver.none
  preprocess := some fun content _ _ =>
    .ok (if content = "theme;\n" then "@import \"b\";\n" else content)

def themedImporter : Importer := ⟨themedConfig, themed.toFileSystem, .ofString "/"⟩

def themedRenderer : Renderer := ⟨themedConfig, InlineCompiler.compile {} 4, themed.toFileSystem⟩

def themedRead : List Path :=
  [.ofString "/app/main.scss", .ofString "/app/a.css", .ofString "/app/b.scss"]

/-- **Plain CSS is to be plain as it is compiled.** Here the hook does not tell an entry from an
import, every stylesheet is plain as it is stored, and all but the CSS also as the hook leaves
them. But the hook gives the CSS an import, which the compiler follows and a search never sees. -/
theorem watchFiles_themed :
    (Path.ofString "/app/main.scss").clean = .ofString "/app/main.scss" ∧
      (∀ file ∈ themedRead, ∀ text ∈ (themed.toFileSystem.read file).toOption,
        Scan.PlainSheet (.ofPath file) text) ∧
      (∀ file ∈ themedRead, Dialect.ofPath file ≠ .css → ∀ isEntry,
        ∀ text ∈ (themedImporter.readSource file isEntry).value.toOption,
          Scan.PlainSheet (.ofPath file) text) ∧
      (∀ file ∈ themedRead, ∀ url ∈ Url.ofFilePath? file, url.toFilePath? = some file) ∧
      (∃ result, (themedRenderer.render (.ofString "/app/main.scss")).value = .ok result ∧
        result.watchFiles = themedRead) ∧
      ∃ deps, (reachable themedImporter (.ofString "/app/main.scss") .empty).value.1 = .ok deps ∧
        deps.files = [.ofString "/app/main.scss", .ofString "/app/a.css"] := by
  have hwatch : (themedRenderer.render (.ofString "/app/main.scss")).value.map
      RenderResult.watchFiles = .ok themedRead := by
    decide +kernel
  have hreach : (reachable themedImporter (.ofString "/app/main.scss") .empty).value.1 = .ok
      ⟨.ofString "/app/main.scss", [.ofString "/app/main.scss", .ofString "/app/a.css"], []⟩ := by
    decide +kernel
  exact ⟨rfl, by decide, by decide, by decide, exists_watchFiles hwatch, _, hreach, rfl⟩

end Stylesheet.Dependency
