import Mathlib.Data.List.Dedup
import Stylesheet.Disk.Edit
import Stylesheet.Proofs.Dependency.Scanned
import Stylesheet.Proofs.Disk.Capacity
import Stylesheet.Proofs.Project.Entries

set_option autoImplicit false

/-! # The order of a scan does not matter

The entries of a project share what is kept of scans and lookups. Whatever the order in which
they are searched from, a scan has the same result: what each entry needs is what a search from
it alone finds, and the files that are scanned are those that such searches scan
(`scan_order`).
-/

namespace Stylesheet.Project

open Dependency

section Searches

variable (c : Config) (fs : FileSystem)

def importerOf (entry : Path) : Importer := { config := c, fs, entryDir := entryDirectory entry }

/-- What an entry needs, searched for alone and with empty caches. -/
def alone (entry : Path) : Except Failure EntryDeps :=
  (reachable (importerOf c fs entry) entry .empty).value.1

/-- What entries need of which each is searched from alone. -/
def allAlone (entries : List Path) : List EntryDeps :=
  entries.filterMap fun e => (alone c fs e).toOption

/-- The files that are scanned by searches from entries alone, as often as they are met. -/
def scannedAlone (found : List EntryDeps) : List Path :=
  found.flatMap fun deps => deps.files.filter fun p =>
    Dialect.ofPath p ≠ .css &&
      (Dependency.scan (importerOf c fs deps.entry) p (p.same deps.entry)).isOk

/-- Paths that a scan may have for entries. -/
def AreEntries (es : List Path) : Prop := ∀ e ∈ es, e.Tidy ∧ Dialect.ofPath e ≠ .css

variable {c fs}

/-! ## Caches shared by entries -/

/-- What is kept does not depend on the entry. -/
theorem sound_importerOf {caches : Caches} {e : Path}
    (h : caches.Sound (importerOf c fs e) Path.Tidy) (e' : Path) :
    caches.Sound (importerOf c fs e') Path.Tidy where
  imports := h.imports
  resolved k hk := by
    obtain ⟨file, hfile, hdir, hl⟩ := h.resolved k hk
    refine ⟨file, hfile, hdir, ?_⟩
    have hsame := (importerOf c fs e).canonicalPath_entryDir (entryDirectory e') file.parentOrSelf
      k.1.2
    exact (congrArg Traced.value hsame).trans hl
  importsOnce := h.importsOnce
  resolvedOnce := h.resolvedOnce

/-- A search from an entry tells of that entry. -/
theorem entry_of_alone (hfs : fs.WithinCapacity) {e : Path} (he : e.Tidy)
    (hcss : Dialect.ofPath e ≠ .css) {deps : EntryDeps} (h : alone c fs e = .ok deps) :
    deps.entry = e := by
  unfold alone at h
  cases hread : ((importerOf c fs e).readSource e true).value with
  | error why =>
      rw [reachable_unreadable he hcss hread] at h
      cases h
  | ok text =>
      obtain ⟨files, -, hfiles⟩ := reachable_eq hfs he (Or.inr ⟨text, hread⟩)
      rw [hfiles] at h
      cases h
      rfl

theorem toOption_alone {e : Path} {deps : EntryDeps} :
    (alone c fs e).toOption = some deps ↔ alone c fs e = .ok deps := by
  cases alone c fs e <;> simp [Except.toOption]

theorem mem_allAlone {es : List Path} {deps : EntryDeps} :
    deps ∈ allAlone c fs es ↔ ∃ e ∈ es, alone c fs e = .ok deps := by
  unfold allAlone
  rw [List.mem_filterMap]
  exact exists_congr fun e => and_congr_right fun _ => toOption_alone

/-- The entries of which something is found are those that can be read. -/
theorem map_entry_allAlone (hfs : fs.WithinCapacity) {es : List Path} (hes : AreEntries es) :
    (allAlone c fs es).map EntryDeps.entry
      = es.filter fun e => ((importerOf c fs e).readSource e true).value.isOk := by
  unfold allAlone
  induction es with
  | nil => rfl
  | cons e es ih =>
      obtain ⟨he, hcss⟩ := hes e (by simp)
      have hrest := ih fun e' he' => hes e' (List.mem_cons_of_mem e he')
      have hok := reachable_isOk_iff (i := importerOf c fs e) hfs he hcss
      rw [List.filterMap_cons, List.filter_cons, ← hok]
      cases halone : alone c fs e with
      | error why =>
          unfold alone at halone
          rw [halone]
          exact hrest
      | ok deps =>
          have hentry := entry_of_alone hfs he hcss halone
          unfold alone at halone
          rw [halone]
          show deps.entry :: _ = e :: _
          rw [hentry, hrest]

/-! ## Entries one after the other -/

theorem mem_scannedAlone {found : List EntryDeps} {p : Path} :
    p ∈ scannedAlone c fs found ↔ ∃ deps ∈ found, p ∈ deps.files ∧
      Scans (importerOf c fs deps.entry) deps.entry p := by
  simp [scannedAlone, Scans]

/-- An answer is added if there is one, and the other entries go on with the caches. -/
theorem scanEntries_cons (e : Path) (rest : List Path) (caches : Caches) :
    (scanEntries c fs (e :: rest) caches).value =
      let outcome := (reachable (importerOf c fs e) e caches).value
      let others := (scanEntries c fs rest outcome.2).value
      (outcome.1.toOption.toList ++ others.1, others.2) := by
  rw [scanEntries]
  simp only [Traced.value_bind]
  unfold importerOf
  cases (reachable { config := c, fs, entryDir := entryDirectory e } e caches).value.1 <;> rfl

/-- Whatever the order, each entry has its own answer, and what is scanned is what searches from
the entries alone scan. -/
theorem scanEntries_value (hfs : fs.WithinCapacity) {order : List Path} (horder : AreEntries order)
    {caches : Caches} (hc : ∀ e, caches.Sound (importerOf c fs e) Path.Tidy) :
    (scanEntries c fs order caches).value.1 = allAlone c fs order ∧
      (∀ e, (scanEntries c fs order caches).value.2.Sound (importerOf c fs e) Path.Tidy) ∧
      ∀ p, p ∈ (scanEntries c fs order caches).value.2.scanned ↔
        p ∈ caches.scanned ∨ p ∈ scannedAlone c fs (allAlone c fs order) := by
  induction order generalizing caches with
  | nil => exact ⟨rfl, hc, fun p => by simp [scanEntries, allAlone, scannedAlone]⟩
  | cons e rest ih =>
      obtain ⟨he, hcss⟩ := horder e (by simp)
      have hans := reachable_answers (hc e) he
      have hmem := mem_scanned_reachable hfs (hc e) he hcss
      have hsound := sound_importerOf hans.sound
      obtain ⟨hfound, hsound', hmem'⟩ :=
        ih (fun e' he' => horder e' (List.mem_cons_of_mem e he')) hsound
      have hanswer : (reachable (importerOf c fs e) e caches).value.1 = alone c fs e := hans.answer
      have hcons : allAlone c fs (e :: rest)
          = (alone c fs e).toOption.toList ++ allAlone c fs rest := by
        unfold allAlone
        rw [List.filterMap_cons]
        cases (alone c fs e).toOption <;> rfl
      rw [scanEntries_cons]
      dsimp only
      rw [hfound, hanswer, ← hcons]
      refine ⟨rfl, hsound', fun p => ?_⟩
      have hsplit : p ∈ scannedAlone c fs (allAlone c fs (e :: rest)) ↔
          (∃ deps, alone c fs e = .ok deps ∧ p ∈ deps.files ∧ Scans (importerOf c fs e) e p) ∨
            p ∈ scannedAlone c fs (allAlone c fs rest) := by
        rw [hcons]
        cases halone : alone c fs e with
        | error why => simp [Except.toOption]
        | ok deps =>
            have hentry := entry_of_alone hfs he hcss halone
            simp [Except.toOption, scannedAlone, Scans, hentry]
      rw [hmem', hmem, hsplit, or_assoc]
      rfl

/-- What entries need, in the order of the entries. -/
theorem pairwise_allAlone (hfs : fs.WithinCapacity) {es : List Path} (hes : AreEntries es)
    (hsorted : es.Pairwise fun p q => pathLe p q = true) :
    (allAlone c fs es).Pairwise fun a b => pathLe a.entry b.entry = true := by
  have hentry : ∀ e ∈ es, ∀ deps, (alone c fs e).toOption = some deps → deps.entry = e := by
    intro e he deps hdeps
    exact entry_of_alone hfs (hes e he).1 (hes e he).2 (toOption_alone.1 hdeps)
  refine List.pairwise_filterMap.2 (hsorted.imp_of_mem fun {e e'} he he' hle => ?_)
  intro deps hdeps deps' hdeps'
  rw [hentry e he deps hdeps, hentry e' he' deps' hdeps']
  exact hle

/-- Sorting by entry forgets the order in which entries were searched from. -/
theorem mergeSort_allAlone (hfs : fs.WithinCapacity) {collected order : List Path}
    (hcollected : AreEntries collected)
    (hsorted : collected.Pairwise fun p q => pathLe p q = true) (horder : order.Perm collected) :
    ((allAlone c fs order).mergeSort fun a b => pathLe a.entry b.entry)
      = allAlone c fs collected := by
  have hsort := List.mergeSort_perm (allAlone c fs order) fun a b => pathLe a.entry b.entry
  have hperm : (allAlone c fs order).Perm (allAlone c fs collected) := horder.filterMap _
  have hentry : ∀ deps ∈ allAlone c fs collected,
      deps.entry.Tidy ∧ alone c fs deps.entry = .ok deps := by
    intro deps hdeps
    obtain ⟨e, he, halone⟩ := mem_allAlone.1 hdeps
    obtain ⟨htidy, hcss⟩ := hcollected e he
    rw [entry_of_alone hfs htidy hcss halone]
    exact ⟨htidy, halone⟩
  refine List.Perm.eq_of_pairwise (fun a b ha hb hab hba => ?_)
    (List.pairwise_mergeSort (fun a b d => pathLe_trans a.entry b.entry d.entry)
      (fun a b => pathLe_total a.entry b.entry) _)
    (pairwise_allAlone hfs hcollected hsorted) (hsort.trans hperm)
  obtain ⟨hatidy, ha⟩ := hentry a ((hsort.trans hperm).mem_iff.1 ha)
  obtain ⟨hbtidy, hb⟩ := hentry b hb
  rw [eq_of_pathLe hatidy hbtidy hab hba, hb] at ha
  exact (Except.ok.inj ha).symm

/-- **A scan in any order.** The result has what searches from the entries alone find, in the order
of the entries, and counts the files that these searches scan. -/
theorem scanAll_value (hfs : fs.WithinCapacity) {collected order : List Path}
    (hcollected : AreEntries collected)
    (hsorted : collected.Pairwise fun p q => pathLe p q = true) (horder : order.Perm collected)
    (root : Path) : (scanAll c fs root order).value =
      { root
        entries := allAlone c fs collected
        filesAnalyzed := (scannedAlone c fs (allAlone c fs collected)).dedup.length } := by
  have hentries : AreEntries order := fun e he => hcollected e (horder.mem_iff.1 he)
  have hempty : ∀ e, Caches.Sound (importerOf c fs e) Path.Tidy .empty :=
    fun e => Caches.sound_empty _ _
  obtain ⟨hfound, hsound, hmem⟩ := scanEntries_value hfs hentries hempty
  have hperm : (allAlone c fs order).Perm (allAlone c fs collected) := horder.filterMap _
  obtain ⟨hnodup, hfiles⟩ := Caches.mem_scannedFiles (hsound .empty).tidy
  have hcount : (scanEntries c fs order .empty).value.2.scannedFiles.length
      = (scannedAlone c fs (allAlone c fs collected)).dedup.length := by
    refine ((List.perm_ext_iff_of_nodup hnodup (List.nodup_dedup _)).2 fun p => ?_).length_eq
    rw [hfiles, hmem, List.mem_dedup, mem_scannedAlone, mem_scannedAlone]
    simp [Caches.scanned, Caches.empty, hperm.mem_iff]
  rw [scanAll, Traced.value_bind, Traced.value_pure, hfound,
    mergeSort_allAlone hfs hcollected hsorted horder, hcount]

end Searches

/-! ## Projects -/

/-- What a scan of a project should tell: for each collected entry that can be read, and for no
other, what a search from it alone finds, in the order of the entries; and how many different
files that are no plain CSS and can be read are among what was found. -/
structure Reports (c : Config) (fs : FileSystem) (collected : List Path) (r : ScanResult) :
    Prop where
  sorted : r.entries.Pairwise fun a b => pathLe a.entry b.entry = true
  entries : r.entries.map EntryDeps.entry = collected.filter fun e => (fs.read e).isOk
  alone : ∀ deps ∈ r.entries, alone c fs deps.entry = .ok deps
  filesAnalyzed : r.filesAnalyzed = ((r.entries.flatMap EntryDeps.files).filter fun p =>
    Dialect.ofPath p ≠ .css && (fs.read p).isOk).dedup.length

/-- Where nothing preprocesses, a source can be had exactly if the file can be read. -/
theorem readSource_isOk {c : Config} (hc : c.preprocess = none) (fs : FileSystem) (entry p : Path)
    (isEntry : Bool) :
    ((importerOf c fs entry).readSource p isEntry).value.isOk = (fs.read p).isOk := by
  unfold Importer.readSource importerOf Config.preprocessed
  rw [hc]
  cases fs.read p <;> rfl

theorem scan_isOk {c : Config} (hc : c.preprocess = none) (fs : FileSystem) (entry p : Path)
    (isEntry : Bool) :
    (Dependency.scan (importerOf c fs entry) p isEntry).isOk = (fs.read p).isOk := by
  rw [← readSource_isOk hc fs entry p isEntry]
  unfold Dependency.scan
  cases ((importerOf c fs entry).readSource p isEntry).value <;> rfl

theorem scannedAlone_eq {c : Config} (hc : c.preprocess = none) (fs : FileSystem)
    (found : List EntryDeps) : scannedAlone c fs found =
      (found.flatMap EntryDeps.files).filter fun p =>
        Dialect.ofPath p ≠ .css && (fs.read p).isOk := by
  unfold scannedAlone
  rw [List.filter_flatMap]
  simp only [scan_isOk hc]

/-- A scan in any order reports what it should. -/
theorem reports_allAlone {c : Config} (hc : c.preprocess = none) {fs : FileSystem}
    (hfs : fs.WithinCapacity) {collected : List Path} (hcollected : AreEntries collected)
    (hsorted : collected.Pairwise fun p q => pathLe p q = true) (root : Path) :
    Reports c fs collected
      { root
        entries := allAlone c fs collected
        filesAnalyzed := (scannedAlone c fs (allAlone c fs collected)).dedup.length } where
  sorted := pairwise_allAlone hfs hcollected hsorted
  entries := by
    rw [map_entry_allAlone hfs hcollected]
    simp only [readSource_isOk hc]
  alone deps hdeps := by
    obtain ⟨e, he, halone⟩ := mem_allAlone.1 hdeps
    rw [entry_of_alone hfs (hcollected e he).1 (hcollected e he).2 halone]
    exact halone
  filesAnalyzed := by rw [scannedAlone_eq hc]

/-- A scan searches from the collected entries, if there are any. -/
theorem value_scan {d : Disk} {o : Options} {collected : List Path}
    (hcollected : entries d (o.settle d).root (o.settle d).entryFilter = .ok collected) :
    (scan d o).value =
      if collected = [] then .error (.noEntries (o.settle d).root)
      else .ok (scanAll
        ((o.settle d).config (Package.resolver d.forPackages [Package.defaultDirectory]))
        d.toFileSystem (o.settle d).root collected).value := by
  unfold scan
  dsimp only
  rw [hcollected]
  cases collected <;> rfl

/-- **The order of a scan does not matter.** In whatever order the collected entries are searched
from, one after the other with shared caches, the result is that of the scan, and reports for each
entry that can be read what a search from it alone finds. Only a scan without any entry to search
from has no result. -/
theorem scan_order (d : Disk) (o : Options) {collected order : List Path}
    (hcollected : entries d (o.settle d).root (o.settle d).entryFilter = .ok collected)
    (horder : order.Perm collected) :
    let s := o.settle d
    let c := s.config (Package.resolver d.forPackages [Package.defaultDirectory])
    let result := (scanAll c d.toFileSystem s.root order).value
    (scan d o).value = (if collected = [] then .error (.noEntries s.root) else .ok result) ∧
      result.root = s.root ∧ Reports c d.toFileSystem collected result := by
  intro s c result
  have hentries : AreEntries collected := tidy_of_mem_entries hcollected
  have hsorted := pairwise_entries hcollected
  have hvalue : ∀ es : List Path, es.Perm collected → (scanAll c d.toFileSystem s.root es).value =
      { root := s.root
        entries := allAlone c d.toFileSystem collected
        filesAnalyzed := (scannedAlone c d.toFileSystem
          (allAlone c d.toFileSystem collected)).dedup.length } :=
    fun es hes => scanAll_value d.withinCapacity hentries hsorted hes s.root
  have hresult : result = _ := hvalue order horder
  refine ⟨?_, ?_, ?_⟩
  · rw [value_scan hcollected, hvalue collected (List.Perm.refl _), hresult]
  · rw [hresult]
  · rw [hresult]
    exact reports_allAlone rfl d.withinCapacity hentries hsorted s.root

/-- A shop with a theme that its stylesheets share, and with a stylesheet that is no text. -/
def shop : Disk :=
  let files : List (String × List UInt8) :=
    [("/shop/_theme.scss", Utf8.ofString ".t \x7b\x7d"),
      ("/shop/admin.scss", Utf8.ofString "@import \"theme\";"),
      ("/shop/broken.scss", [0xFF]),
      ("/shop/site.sass", Utf8.ofString "@use \"theme\"\n@import \"gone\"")]
  files.foldl (fun d file => d.writeFile (.ofString file.1) file.2) {}

def shopOptions : Options := { root := some (.ofString "/shop") }

def shopEntries : List Path :=
  [.ofString "/shop/admin.scss", .ofString "/shop/broken.scss", .ofString "/shop/site.sass"]

/-- The shop's stylesheets stand there in order, so that sorting leaves them as they are. -/
theorem entries_shop :
    entries shop (shopOptions.settle shop).root (shopOptions.settle shop).entryFilter
      = .ok shopEntries := by
  have hwalk : (walk shop (shopOptions.settle shop).root).map (fun visited =>
      (visited.map (pathBelow (shopOptions.settle shop).root)).filter fun p =>
        shop.isFile p && isEntryPath (shopOptions.settle shop).root none p)
      = .ok shopEntries := by decide +kernel
  have hsorted : shopEntries.Pairwise fun p q => pathLe p q = true := by decide +kernel
  unfold entries entriesAmong
  cases hvisited : walk shop (shopOptions.settle shop).root with
  | error e =>
      rw [hvisited] at hwalk
      cases hwalk
  | ok visited =>
      rw [hvisited] at hwalk
      have hfiltered := Except.ok.inj hwalk
      dsimp only at hfiltered
      show Except.ok (List.mergeSort (List.filter _ _) pathLe) = _
      rw [show (shopOptions.settle shop).entryFilter = none from rfl, hfiltered,
        List.mergeSort_of_pairwise hsorted]

theorem scan_order_shop :
    let s := shopOptions.settle shop
    let c := s.config (Package.resolver shop.forPackages [Package.defaultDirectory])
    let result := (scanAll c shop.toFileSystem s.root shopEntries.reverse).value
    entries shop s.root s.entryFilter = .ok shopEntries ∧
      shopEntries.reverse.Perm shopEntries ∧
      (scan shop shopOptions).value = .ok result ∧ result.root = s.root ∧
        Reports c shop.toFileSystem shopEntries result := by
  have hperm := shopEntries.reverse_perm
  exact ⟨entries_shop, hperm, scan_order shop shopOptions entries_shop hperm⟩

end Stylesheet.Project
