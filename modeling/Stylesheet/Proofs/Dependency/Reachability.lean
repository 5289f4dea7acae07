import Mathlib.Data.Finset.Card
import Mathlib.Data.Finset.Dedup
import Mathlib.Data.List.Perm.Subperm
import Mathlib.Data.List.TakeWhile
import Stylesheet.FileSystem.Memory
import Stylesheet.Hooks
import Stylesheet.Proofs.Dependency.Exploration
import Stylesheet.Proofs.Dependency.Search

set_option autoImplicit false

/-! # What an entry needs

A search without caches visits files as `Visits` says, with `imported` for the children, and
tells of each file visited what its specifiers leave to tell (`explore_eq`). It never runs out of
budget: what it visits are the entry and tidy paths at which something exists, and a file system
in memory has no more of these than its capacity.
-/

namespace Stylesheet

/-- The tidy paths at which something exists are no more than the capacity. -/
def FileSystem.WithinCapacity (fs : FileSystem) : Prop :=
  ∃ paths : List Path, paths.length ≤ fs.capacity ∧ (∀ p ∈ paths, p.Tidy) ∧
    ∀ p : Path, p.Tidy → fs.found p = true → p ∈ paths

namespace MemoryFs

variable (m : MemoryFs)

/-- The files and directories, each in its tidy spelling. -/
def existing : Finset Path :=
  ((m.files.map Prod.fst ++ m.directories).map fun p => Path.ofComponents p.components).toFinset

theorem mem_existing_iff (p : Path) :
    p ∈ m.existing ↔ p.Tidy ∧ (m.isFile p = true ∨ m.isDirectory p = true) := by
  have hany : m.isFile p = true ∨ m.isDirectory p = true ↔
      ∃ q ∈ m.files.map Prod.fst ++ m.directories, q.same p = true := by
    rw [← List.any_eq_true, List.any_append, List.any_map, Bool.or_eq_true]
    rfl
  rw [hany, existing, List.mem_toFinset, List.mem_map]
  constructor
  · rintro ⟨q, hq, rfl⟩
    exact ⟨q.ofComponents_tidy, q, hq, q.same_ofComponents⟩
  · rintro ⟨htidy, q, hq, hsame⟩
    exact ⟨q, hq, by rw [Path.same_iff.1 hsame, htidy.ofComponents]⟩

theorem mem_existing_of_found {p : Path} (htidy : p.Tidy) (h : m.toFileSystem.found p = true) :
    p ∈ m.existing :=
  (m.mem_existing_iff p).2 ⟨htidy, ((m.found_iff p).1 h).2⟩

theorem card_existing_le : m.existing.card ≤ m.toFileSystem.capacity := by
  refine (List.toFinset_card_le _).trans ?_
  simp [toFileSystem]

theorem withinCapacity : m.toFileSystem.WithinCapacity := by
  refine ⟨m.existing.toList, ?_, ?_, ?_⟩
  · rw [Finset.length_toList]
    exact m.card_existing_le
  · intro p hp
    exact ((m.mem_existing_iff p).1 (Finset.mem_toList.1 hp)).1
  · intro p htidy hfound
    exact Finset.mem_toList.2 (m.mem_existing_of_found htidy hfound)

end MemoryFs

namespace Dependency

variable (i : Importer)

/-! ## What a file imports -/

/-- The specifiers scanned in a file by a search from an entry. In plain CSS, and in a file that
cannot be read, there are none. -/
def specifiers (entry file : Path) : List String :=
  if Dialect.ofPath file = .css then []
  else match scan i file (file = entry) with
    | .ok specs => specs
    | .error _ => []

def imported (entry file : Path) : List Path := (specifiers i entry file).filterMap (child? i file)

def told (entry file : Path) : List Unresolved :=
  (specifiers i entry file).filterMap (unresolved? i file)

/-- A file imports another if it is no plain CSS and can be read, in its role, and one of its
specifiers leads to the other. -/
def Imports (entry file imported : Path) : Prop :=
  Dialect.ofPath file ≠ .css ∧ ∃ text, (i.readSource file (file = entry)).value = .ok text ∧
    ∃ specifier ∈ Scan.scanImports text (.ofPath file),
      (i.canonicalPath specifier file.parentOrSelf).value = .ok (some imported)

/-- An entry that a search does not fail on: it can be read, or it is plain CSS and need not be. -/
def Readable (entry : Path) : Prop :=
  Dialect.ofPath entry = .css ∨ ∃ text, (i.readSource entry true).value = .ok text

variable {i} {entry : Path}

theorem child?_eq_some_iff {file q : Path} {specifier : String} :
    child? i file specifier = some q ↔ lookUp i file specifier = .ok (some q) := by
  unfold child?
  cases lookUp i file specifier with
  | error e => simp
  | ok answer => simp

theorem mem_specifiers_iff {file : Path} {specifier : String} :
    specifier ∈ specifiers i entry file ↔ Dialect.ofPath file ≠ .css ∧
      ∃ text, (i.readSource file (file = entry)).value = .ok text ∧
        specifier ∈ Scan.scanImports text (.ofPath file) := by
  unfold specifiers scan
  by_cases hcss : Dialect.ofPath file = .css
  · simp [hcss]
  · rw [if_neg hcss]
    cases (i.readSource file (file = entry)).value with
    | error e => simp [Except.map]
    | ok text => simp [Except.map, hcss]

theorem mem_imported_iff {file q : Path} : q ∈ imported i entry file ↔ Imports i entry file q := by
  unfold imported Imports
  rw [List.mem_filterMap]
  constructor
  · rintro ⟨specifier, hs, hq⟩
    obtain ⟨hcss, text, htext, hs⟩ := mem_specifiers_iff.1 hs
    exact ⟨hcss, text, htext, specifier, hs, child?_eq_some_iff.1 hq⟩
  · rintro ⟨hcss, text, htext, specifier, hs, hq⟩
    exact ⟨specifier, mem_specifiers_iff.2 ⟨hcss, text, htext, hs⟩, child?_eq_some_iff.2 hq⟩

theorem imported_found {file q : Path} (h : q ∈ imported i entry file) :
    i.fs.found q = true ∧ q.Tidy := by
  obtain ⟨specifier, -, hq⟩ := List.mem_filterMap.1 h
  obtain ⟨hfound, hname⟩ := sheetName_of_child? i hq
  exact ⟨hfound, hname.tidy⟩

/-! ## The search visits what is imported -/

theorem same_eq_decide {p q : Path} (hp : p.Tidy) (hq : q.Tidy) : p.same q = decide (p = q) := by
  rw [Bool.eq_iff_iff, decide_eq_true_iff]
  exact ⟨hp.eq_of_same hq, fun h => h ▸ p.same_refl⟩

/-- Only an entry that cannot be read makes a look fail. -/
theorem look_eq (hentry : entry.Tidy) (hread : Readable i entry) {file : Path} (hf : file.Tidy) :
    look i entry file = .ok ⟨imported i entry file, told i entry file⟩ := by
  unfold look imported told specifiers followed
  rw [same_eq_decide hf hentry]
  by_cases hcss : Dialect.ofPath file = .css
  · simp [hcss]
  · rw [if_neg hcss, if_neg hcss]
    cases hs : scan i file (file = entry) with
    | ok specs => rfl
    | error e =>
        by_cases hfe : file = entry
        · subst hfe
          obtain ⟨text, htext⟩ := hread.resolve_left hcss
          simp [scan, htext, Except.map] at hs
        · simp [hfe]

theorem Visits.of_dropWhile {α : Type} {kids : α → List α} {stack before after : List α}
    {p : α → Bool} (hp : ∀ u ∈ stack, p u = true → u ∈ before)
    (h : Visits kids (stack.dropWhile p) before after) : Visits kids stack before after := by
  induction stack with
  | nil => exact h
  | cons u rest ih =>
      by_cases hu : p u = true
      · rw [List.dropWhile_cons_of_pos hu] at h
        exact .again (hp u (by simp) hu) (ih (fun v hv => hp v (by simp [hv])) h)
      · rwa [List.dropWhile_cons_of_neg hu] at h

/-- What a search leaves out was visited. -/
theorem mem_reverse_of_any_same {paths stack seen : List Path} (htidy : ∀ p ∈ paths, p.Tidy)
    (hstack : stack ⊆ paths) (hseen : seen ⊆ paths) :
    ∀ p ∈ stack, seen.any (·.same p) = true → p ∈ seen.reverse := by
  intro p hp hs
  have hmem := (Path.any_same_iff (fun q hq => htidy q (hseen hq)) (htidy p (hstack hp))).1 hs
  exact List.mem_reverse.2 hmem

theorem visits_of_seen {paths stack seen : List Path} (htidy : ∀ p ∈ paths, p.Tidy)
    (hstack : stack ⊆ paths) (hseen : seen ⊆ paths)
    (h : stack.dropWhile (fun p => seen.any (·.same p)) = []) :
    Visits (imported i entry) stack seen.reverse seen.reverse := by
  refine .of_dropWhile (mem_reverse_of_any_same htidy hstack hseen) ?_
  rw [h]
  exact .done _

/-- What a search goes on with is on the stack and begins with a file that was not seen. -/
theorem mem_of_dropWhile_eq_cons {stack seen rest : List Path} {file : Path}
    (h : stack.dropWhile (fun p => seen.any (·.same p)) = file :: rest) :
    file :: rest ⊆ stack ∧ file ∉ seen := by
  constructor
  · intro p hp
    exact (List.dropWhile_sublist _).subset (h ▸ hp)
  · intro hmem
    have hhead := List.head?_dropWhile_not (fun p => seen.any (·.same p)) stack
    have hs : seen.any (·.same file) = true := List.any_eq_true.2 ⟨file, hmem, file.same_refl⟩
    rw [h] at hhead
    simp [hs] at hhead

/-- A search ends where everything left was seen. -/
theorem explore_of_seen {budget : Nat} {stack seen : List Path} {missing : List Unresolved}
    (h : stack.dropWhile (fun p => seen.any (·.same p)) = []) :
    explore i entry budget stack seen missing = .ok ⟨entry, seen.reverse, missing⟩ := by
  rw [explore, h]

/-- Else it looks into the first file that was not seen. -/
theorem explore_of_new (hentry : entry.Tidy) (hread : Readable i entry) {budget : Nat}
    {stack seen rest : List Path} {file : Path} {missing : List Unresolved} (hf : file.Tidy)
    (h : stack.dropWhile (fun p => seen.any (·.same p)) = file :: rest) :
    explore i entry (budget + 1) stack seen missing =
      explore i entry budget (imported i entry file ++ rest) (file :: seen)
        (missing ++ told i entry file) := by
  rw [explore, h]
  simp only [look_eq hentry hread hf]

/-- **The search ends, visits what is imported and tells of every file visited.** All it may
visit is among `paths`, and the budget covers those not visited so far. -/
theorem explore_eq (hentry : entry.Tidy) (hread : Readable i entry) {paths : List Path}
    (htidy : ∀ p ∈ paths, p.Tidy) (hpaths : ∀ p ∈ paths, ∀ q ∈ imported i entry p, q ∈ paths)
    (budget : Nat) (stack seen : List Path) (hstack : stack ⊆ paths) (hseen : seen ⊆ paths)
    (honce : seen.Nodup) (hbudget : paths.length ≤ budget + seen.length)
    (missing : List Unresolved) :
    ∃ new, Visits (imported i entry) stack seen.reverse (seen.reverse ++ new) ∧
      explore i entry budget stack seen missing =
        .ok ⟨entry, seen.reverse ++ new, missing ++ new.flatMap (told i entry)⟩ := by
  -- by the budget, which is never less than the number of paths that were not seen
  induction budget generalizing stack seen missing with
  | zero =>
      -- without a budget everything has been visited
      have hall : paths ⊆ seen :=
        ((List.subperm_of_subset honce hseen).perm_of_length_le (by omega)).symm.subset
      have hdrop : stack.dropWhile (fun p => seen.any (·.same p)) = [] := by
        refine List.dropWhile_eq_nil_iff.2 fun p hp => ?_
        exact List.any_eq_true.2 ⟨p, hall (hstack hp), p.same_refl⟩
      refine ⟨[], ?_, ?_⟩
      · rw [List.append_nil]
        exact visits_of_seen htidy hstack hseen hdrop
      · rw [explore_of_seen hdrop]
        simp
  | succ budget ih =>
      cases hdrop : stack.dropWhile (fun p => seen.any (·.same p)) with
      | nil =>
          refine ⟨[], ?_, ?_⟩
          · rw [List.append_nil]
            exact visits_of_seen htidy hstack hseen hdrop
          · rw [explore_of_seen hdrop]
            simp
      | cons file rest =>
          obtain ⟨hin, hnew⟩ := mem_of_dropWhile_eq_cons hdrop
          have hfile : file ∈ paths := hstack (hin (by simp))
          have hmore : imported i entry file ++ rest ⊆ paths := by
            intro q hq
            rcases List.mem_append.1 hq with hq | hq
            · exact hpaths file hfile q hq
            · exact hstack (hin (by simp [hq]))
          have hseen' : file :: seen ⊆ paths := List.cons_subset.2 ⟨hfile, hseen⟩
          have honce' : (file :: seen).Nodup := List.nodup_cons.2 ⟨hnew, honce⟩
          have hbudget' : paths.length ≤ budget + (file :: seen).length := by
            rw [List.length_cons]
            omega
          obtain ⟨new, hvisits, hexplore⟩ :=
            ih _ _ hmore hseen' honce' hbudget' (missing ++ told i entry file)
          rw [List.reverse_cons, List.append_assoc] at hvisits hexplore
          refine ⟨file :: new, ?_, ?_⟩
          · refine .of_dropWhile (mem_reverse_of_any_same htidy hstack hseen) ?_
            rw [hdrop]
            exact .look (fun h => hnew (List.mem_reverse.1 h)) hvisits
          · rw [explore_of_new hentry hread (htidy file hfile) hdrop, hexplore, List.flatMap_cons,
              List.append_assoc, List.singleton_append]

/-! ## The search with caches -/

/-- What a search with empty caches gives for an entry that it does not fail on. -/
theorem reachable_eq (hfs : i.fs.WithinCapacity) (hentry : entry.Tidy) (hread : Readable i entry) :
    ∃ files, Visits (imported i entry) [entry] [] files ∧
      (reachable i entry .empty).value.1 = .ok ⟨entry, files, files.flatMap (told i entry)⟩ := by
  obtain ⟨paths, hcard, htidy, hfound⟩ := hfs
  have hsearch := (walk_answers (uniform_tidy i) (Caches.sound_empty i _) entry
    (i.fs.capacity + 1) [entry] (by simpa using hentry) [] []).answer
  have htidy' : ∀ p ∈ entry :: paths, p.Tidy := by simpa using ⟨hentry, htidy⟩
  obtain ⟨files, hvisits, hexplore⟩ := explore_eq hentry hread htidy'
    (fun p _ q hq => List.mem_cons_of_mem _ (hfound q (imported_found hq).2 (imported_found hq).1))
    (i.fs.capacity + 1) [entry] [] (by simp) (List.nil_subset _) List.nodup_nil
    (by simpa using hcard) []
  exact ⟨files, hvisits, hsearch.trans hexplore⟩

/-- What a search with empty caches gives for an entry that cannot be read. -/
theorem reachable_unreadable (hentry : entry.Tidy) (hcss : Dialect.ofPath entry ≠ .css)
    {e : Failure} (hread : (i.readSource entry true).value = .error e) :
    (reachable i entry .empty).value.1 = .error e := by
  have hsearch := (walk_answers (uniform_tidy i) (Caches.sound_empty i _) entry
    (i.fs.capacity + 1) [entry] (by simpa using hentry) [] []).answer
  have hlook : look i entry entry = .error e := by
    unfold look scan
    rw [if_neg hcss, entry.same_refl, hread]
    rfl
  rw [reachable, hsearch, explore]
  simp [hlook]

/-- What a search for the stylesheets that an entry needs has to find: the entry first, no path
twice, exactly what the entry reaches, and every import of these that leads nowhere. -/
structure Complete (i : Importer) (entry : Path) (deps : EntryDeps) : Prop where
  entry_eq : deps.entry = entry
  head : deps.files.head? = some entry
  once : deps.files.Pairwise fun p q => p.same q = false
  files : ∀ file, file ∈ deps.files ↔ Relation.ReflTransGen (Imports i entry) entry file
  unresolved : deps.unresolved = deps.files.flatMap (told i entry)

theorem complete_of_visits (hentry : entry.Tidy) {files : List Path}
    (h : Visits (imported i entry) [entry] [] files) :
    Complete i entry ⟨entry, files, files.flatMap (told i entry)⟩ := by
  have hrel : (fun u k => k ∈ imported i entry u) = Imports i entry := by
    funext u k
    exact propext mem_imported_iff
  have hmem := h.mem_iff
  rw [hrel] at hmem
  have htidy : ∀ p ∈ files, p.Tidy := by
    intro p hp
    rcases Relation.ReflTransGen.cases_tail ((hmem p).1 hp) with heq | ⟨q, -, hq⟩
    · exact heq ▸ hentry
    · exact (imported_found (mem_imported_iff.2 hq)).2
  refine ⟨rfl, h.head?, ?_, hmem, rfl⟩
  refine (h.nodup List.nodup_nil).imp_of_mem fun {p q} hp hq hne => ?_
  rw [same_eq_decide (htidy p hp) (htidy q hq), decide_eq_false hne]

/-- **What an entry needs is found completely.** A search from a clean entry through a file
system in memory fails exactly if the entry is no plain CSS and cannot be read, and with that
very failure; otherwise it finds the entry and all that it imports, directly or through other
files, and tells of each import among these that leads nowhere. -/
theorem reachable_complete (m : MemoryFs) (config : Config) (dir entry : Path)
    (hclean : entry.clean = entry) :
    let i : Importer := ⟨config, m.toFileSystem, dir⟩
    (∀ e, (reachable i entry .empty).value.1 = .error e ↔
      Dialect.ofPath entry ≠ .css ∧ (i.readSource entry true).value = .error e) ∧
    (Readable i entry →
      ∃ deps, (reachable i entry .empty).value.1 = .ok deps ∧ Complete i entry deps) := by
  intro i
  have hentry := Path.tidy_of_clean_eq hclean
  have hok : Readable i entry →
      ∃ deps, (reachable i entry .empty).value.1 = .ok deps ∧ Complete i entry deps := by
    intro hread
    obtain ⟨files, hvisits, hr⟩ := reachable_eq m.withinCapacity hentry hread
    exact ⟨_, hr, complete_of_visits hentry hvisits⟩
  -- a search never fails on an entry that can be read, so its failure is that of reading the entry
  refine ⟨fun e => ?_, hok⟩
  constructor
  · intro he
    by_cases hread : Readable i entry
    · obtain ⟨deps, hd, -⟩ := hok hread
      rw [he] at hd
      cases hd
    · obtain ⟨hcss, htext⟩ := not_or.1 hread
      cases hr : (i.readSource entry true).value with
      | ok text => exact absurd ⟨text, hr⟩ htext
      | error e' =>
          have hfails := reachable_unreadable hentry hcss hr
          rw [he] at hfails
          cases hfails
          exact ⟨hcss, rfl⟩
  · rintro ⟨hcss, he⟩
    exact reachable_unreadable hentry hcss he

/-- Two stylesheets that import each other. The first also imports one that is not there. -/
def circle : MemoryFs :=
  (MemoryFs.empty.addFile (.ofString "/app/main.scss")
    "@import \"theme\";\n@import \"gone\";\n").addFile (.ofString "/app/theme.scss")
    "@import \"main\";\n"

def circleImporter : Importer where
  config := { packages := PackageResolver.none }
  fs := circle.toFileSystem
  entryDir := .ofString "/app"

theorem reachable_complete_circle :
    (Path.ofString "/app/main.scss").clean = .ofString "/app/main.scss" ∧
      ∃ deps, (reachable circleImporter (.ofString "/app/main.scss") .empty).value.1 = .ok deps ∧
        Complete circleImporter (.ofString "/app/main.scss") deps := by
  have hclean : (Path.ofString "/app/main.scss").clean = .ofString "/app/main.scss" := by
    decide +kernel
  have hread : Readable circleImporter (.ofString "/app/main.scss") :=
    Or.inr ⟨"@import \"theme\";\n@import \"gone\";\n", by decide +kernel⟩
  have h := reachable_complete circle { packages := PackageResolver.none } (.ofString "/app") _
    hclean
  exact ⟨hclean, h.2 hread⟩

example : (reachable circleImporter (.ofString "/app/main.scss") .empty).value.1 = .ok
    ⟨.ofString "/app/main.scss", [.ofString "/app/main.scss", .ofString "/app/theme.scss"],
      [⟨.ofString "/app/main.scss", "gone", none⟩]⟩ := by decide +kernel

end Dependency

end Stylesheet
