import Mathlib.Data.Finset.Insert
import Stylesheet.Proofs.Dependency.Reachability
import Stylesheet.Proofs.Dependency.Rounds

set_option autoImplicit false

/-! # Searches end

A search through a file system in memory is the rounds that begin with its entry
(`reachable_rounds`). They end whatever hooks, package resolver and caches there are
(`search_ends`): every answer to a lookup has passed a check for existence, be it now or when it
was kept (`Caches.Checked`), so the search goes by the entry and what exists.
-/

namespace Stylesheet.Dependency

/-! ## Answers are checked -/

variable (i : Importer)

/-- The look of a search with caches, which are what it keeps for later. -/
def cachedLook (entry : Path) : Path → Caches → Except Failure Followed × Caches :=
  fun file c => (visit i entry file c).value

/-- Every answer kept is a tidy path at which something exists. -/
def Caches.Checked (fs : FileSystem) (c : Caches) : Prop :=
  ∀ k ∈ c.resolved, ∀ p, k.2 = some p → fs.found p = true ∧ p.Tidy

variable {i} {c : Caches} {entry : Path}

theorem Caches.checked_empty (fs : FileSystem) : Caches.empty.Checked fs := by
  simp [Checked, empty]

theorem resolved_importsFor (file : Path) (isEntry : Bool) :
    (importsFor i file isEntry c).value.2.resolved = c.resolved := by
  unfold importsFor
  cases c.imports? file isEntry with
  | some specs => rfl
  | none =>
      simp only [Traced.value_bind]
      cases (i.readSource file isEntry).value with
      | error e => rfl
      | ok source => rfl

/-- Whether an answer was kept or is looked up now, it has passed a check for existence. -/
theorem checked_resolve (hc : c.Checked i.fs) (dir : Path) (specifier : String) :
    (resolve i dir specifier c).value.2.Checked i.fs ∧
      ∀ p, (resolve i dir specifier c).value.1 = .ok (some p) → i.fs.found p = true ∧ p.Tidy := by
  unfold resolve
  cases hk : c.resolved? dir specifier with
  | some answer =>
      refine ⟨hc, fun p hp => ?_⟩
      obtain ⟨d, hd, -⟩ := Caches.exists_of_resolved? hk
      cases hp
      exact hc _ hd p rfl
  | none =>
      simp only [Traced.value_bind]
      cases hr : (i.canonicalPath specifier dir).value with
      | error e => exact ⟨hc, fun p hp => by cases hp⟩
      | ok answer =>
          have hanswer : ∀ p, answer = some p → i.fs.found p = true ∧ p.Tidy := by
            rintro p rfl
            obtain ⟨hfound, hname⟩ := i.sheetName_of_canonicalPath hr
            exact ⟨hfound, hname.tidy⟩
          refine ⟨fun k hk p hp => ?_, fun p hp => hanswer p (Except.ok.inj hp)⟩
          rcases List.mem_cons.1 hk with rfl | hk
          · exact hanswer p hp
          · exact hc k hk p hp

theorem checked_follow (hc : c.Checked i.fs) (file : Path) (specs : List String) :
    (follow i file specs c).value.2.Checked i.fs ∧
      ∀ p ∈ (follow i file specs c).value.1.children, i.fs.found p = true ∧ p.Tidy := by
  induction specs generalizing c with
  | nil => exact ⟨hc, by simp [follow]⟩
  | cons spec specs ih =>
      obtain ⟨hc', hanswer⟩ := checked_resolve hc file.parentOrSelf spec
      obtain ⟨hc'', hrest⟩ := ih hc'
      rw [follow, Traced.value_bind, Traced.value_bind]
      cases hr : (resolve i file.parentOrSelf spec c).value.1 with
      | error e => exact ⟨hc'', hrest⟩
      | ok answer =>
          cases answer with
          | none => exact ⟨hc'', hrest⟩
          | some p => exact ⟨hc'', List.forall_mem_cons.2 ⟨hanswer p hr, hrest⟩⟩

theorem checked_visit (hc : c.Checked i.fs) (file : Path) :
    (visit i entry file c).value.2.Checked i.fs ∧
      ∀ found, (visit i entry file c).value.1 = .ok found →
        ∀ p ∈ found.children, i.fs.found p = true ∧ p.Tidy := by
  unfold visit
  by_cases hcss : Dialect.ofPath file = .css
  · rw [if_pos hcss]
    refine ⟨hc, fun found h => ?_⟩
    cases h
    simp
  · have hresolved := @resolved_importsFor i c file (file.same entry)
    rw [if_neg hcss, Traced.value_bind]
    generalize (importsFor i file (file.same entry) c).value = scanned at hresolved ⊢
    obtain ⟨answer, c'⟩ := scanned
    have hc' : c'.Checked i.fs := by
      unfold Caches.Checked at hc ⊢
      rwa [hresolved]
    cases answer with
    | error e =>
        refine ⟨hc', fun found h => ?_⟩
        cases hentry : file.same entry with
        | true => simp [hentry] at h
        | false =>
            rw [hentry] at h
            cases h
            simp
    | ok specs =>
        obtain ⟨hc'', hchildren⟩ := checked_follow hc' file specs
        refine ⟨hc'', fun found h => ?_⟩
        cases h
        exact hchildren

/-- A search through a file system in memory goes by the entry and what exists. -/
theorem confined_cachedLook {m : MemoryFs} (hm : i.fs = m.toFileSystem) :
    Confined (cachedLook i entry) (Caches.Checked i.fs) (insert entry m.existing) where
  keeps file c hc := (checked_visit hc file).1
  leads file c found hc h q hq := by
    obtain ⟨hfound, htidy⟩ := (checked_visit hc file).2 found h q hq
    have hmem : q ∈ m.existing := m.mem_existing_of_found htidy (hm ▸ hfound)
    exact ⟨q, Finset.mem_insert_of_mem hmem, q.same_refl⟩

/-! ## Budgets -/

/-- A search passes over a file that was visited. -/
theorem walk_of_visited {g : Gathered Caches} {stack : List Path} {file : Path} (budget : Nat)
    (seen : g.visited file = true) :
    walk i entry budget (file :: stack) g.files.reverse g.unresolved g.kept =
      walk i entry budget stack g.files.reverse g.unresolved g.kept := by
  cases budget with
  | zero => rw [walk, walk, g.any_reverse_files, List.dropWhile_cons_of_pos seen]
  | succ budget => rw [walk, walk, g.any_reverse_files, List.dropWhile_cons_of_pos seen]

/-- It looks into one that was not, and goes on with what is new of what that leads to. -/
theorem walk_of_new {g : Gathered Caches} {stack : List Path} {file : Path} (budget : Nat)
    (new : g.visited file = false) :
    (walk i entry (budget + 1) (file :: stack) g.files.reverse g.unresolved g.kept).value =
      match cachedLook i entry file g.kept with
      | (.error e, c) => (.error e, c)
      | (.ok found, c) =>
        (walk i entry budget
          (found.children.filter (fun p => !(g.add file found c).visited p) ++ stack)
          (g.add file found c).files.reverse (g.add file found c).unresolved
          (g.add file found c).kept).value := by
  have hdrop : (file :: stack).dropWhile g.visited = file :: stack :=
    List.dropWhile_cons_of_neg (by simp [new])
  have hfiles : ∀ found c, (g.add file found c).files.reverse = file :: g.files.reverse :=
    fun found c => by simp [Gathered.add]
  rw [walk, g.any_reverse_files, hdrop]
  unfold cachedLook
  simp only [Traced.value_bind, ← Gathered.any_reverse_files, hfiles]
  generalize (visit i entry file g.kept).value = looked
  obtain ⟨answer, c⟩ := looked
  cases answer with
  | error e => rfl
  | ok found => rfl

/-- A search whose budget covers the files that the rounds visit is these rounds. -/
theorem walk_eq_of_rounds {g out : Gathered Caches} {stack : List Path}
    {failure : Option Failure} (h : Rounds (cachedLook i entry) stack g out failure) {budget : Nat}
    (hbudget : out.files.length ≤ g.files.length + budget) :
    (walk i entry budget stack g.files.reverse g.unresolved g.kept).value =
      (out.answer entry failure, out.kept) := by
  induction h generalizing budget with
  | done g =>
      cases budget with
      | zero => simp [walk, Gathered.answer, Gathered.deps]
      | succ budget => simp [walk, Gathered.answer, Gathered.deps]
  | again seen more ih =>
      rw [walk_of_visited budget seen]
      exact ih hbudget
  | @fail file rest g e s new looked =>
      rw [Gathered.length_add] at hbudget
      obtain ⟨budget, rfl⟩ : ∃ b, budget = b + 1 := ⟨budget - 1, by omega⟩
      rw [walk_of_new budget new, looked]
      rfl
  | @look file rest g out failure found s new looked more ih =>
      have hgrows := more.length_le
      rw [Gathered.length_add] at hgrows
      obtain ⟨budget, rfl⟩ : ∃ b, budget = b + 1 := ⟨budget - 1, by omega⟩
      rw [walk_of_new budget new, looked]
      exact ih (by rw [Gathered.length_add]; omega)

/-! ## Searches through file systems in memory -/

/-- The caches that earlier searches and scans over a file system have filled, each with its own
configuration. -/
inductive Caches.Filled (fs : FileSystem) : Caches → Prop
  | empty : Filled fs .empty
  | searched {c : Caches} (config : Config) (dir entry : Path) (before : Filled fs c) :
      Filled fs (reachable ⟨config, fs, dir⟩ entry c).value.2
  | scanned {c : Caches} (config : Config) (dir file : Path) (isEntry : Bool)
      (before : Filled fs c) : Filled fs (importsFor ⟨config, fs, dir⟩ file isEntry c).value.2

/-- A search is the rounds that begin with its entry. -/
theorem reachable_rounds {m : MemoryFs} (hm : i.fs = m.toFileSystem) (entry : Path)
    (hc : c.Checked i.fs) :
    ∃ out failure, Rounds (cachedLook i entry) [entry] (.start c) out failure ∧
      (reachable i entry c).value = (out.answer entry failure, out.kept) ∧
      out.files.length ≤ m.existing.card + 1 := by
  have hentry : ∀ p ∈ [entry], GoesBy (insert entry m.existing) p := by
    rw [List.forall_mem_singleton]
    exact ⟨entry, Finset.mem_insert_self _ _, entry.same_refl⟩
  obtain ⟨out, failure, hrounds, hcount⟩ :=
    exists_rounds (confined_cachedLook hm) (.start c) hc [entry] hentry
  have hcard : out.files.length ≤ m.existing.card + 1 :=
    calc out.files.length
        ≤ ((Gathered.start c).left (insert entry m.existing)).card := by
          simpa [Gathered.start] using hcount
      _ ≤ (insert entry m.existing).card := Finset.card_le_card (Finset.filter_subset _ _)
      _ ≤ m.existing.card + 1 := Finset.card_insert_le _ _
  have hcapacity : m.existing.card ≤ i.fs.capacity := hm ▸ m.card_existing_le
  have hbudget : out.files.length ≤ (Gathered.start c).files.length + (i.fs.capacity + 1) := by
    omega
  exact ⟨out, failure, hrounds, walk_eq_of_rounds hrounds hbudget, hcard⟩

/-- Whatever filled the caches, the answers kept in them have passed a check for existence. -/
theorem Caches.Filled.checked {m : MemoryFs} (hc : c.Filled m.toFileSystem) :
    c.Checked m.toFileSystem := by
  induction hc with
  | empty => exact checked_empty _
  | @searched c config dir entry before ih =>
      let i : Importer := ⟨config, m.toFileSystem, dir⟩
      obtain ⟨out, failure, hrounds, hreach, -⟩ := reachable_rounds (i := i) rfl entry ih
      have hkeeps : ∀ file s, s.Checked i.fs → (cachedLook i entry file s).2.Checked i.fs :=
        fun file s hs => (checked_visit hs file).1
      rw [hreach]
      exact hrounds.kept hkeeps ih
  | @scanned c config dir file isEntry before ih =>
      unfold Checked at ih ⊢
      rwa [resolved_importsFor]

/-- **The search ends on every input.** Through a file system in memory, with any hooks, package
resolver and entry, and whatever earlier searches kept, the rounds that begin with the entry come
to an end. What they gather is the answer of the search. They visit no file twice, and at most one
more than there are files and directories. Hooks are functions of the file here; nothing rests on
that, for `exists_rounds` is about any look at all, also one whose answers depend on the looks
before it, which covers hooks that keep a state of their own. -/
theorem search_ends (m : MemoryFs) (config : Config) (dir entry : Path) {c : Caches}
    (hc : c.Filled m.toFileSystem) :
    let i : Importer := ⟨config, m.toFileSystem, dir⟩
    ∃ out failure, Rounds (cachedLook i entry) [entry] (.start c) out failure ∧
      (reachable i entry c).value = (out.answer entry failure, out.kept) ∧
      (out.files.Pairwise fun p q => p.same q = false) ∧
      out.files.length ≤ m.existing.card + 1 := by
  intro i
  obtain ⟨out, failure, hrounds, hreach, hcount⟩ := reachable_rounds (i := i) rfl entry hc.checked
  exact ⟨out, failure, hrounds, hreach, hrounds.once List.Pairwise.nil, hcount⟩

/-- Once more through the circle, with what a first search kept. -/
theorem search_ends_circle :
    let c := (reachable circleImporter (.ofString "/app/main.scss") .empty).value.2
    c.Filled circle.toFileSystem ∧
      ∃ out failure, Rounds (cachedLook circleImporter (.ofString "/app/theme.scss"))
          [.ofString "/app/theme.scss"] (.start c) out failure ∧
        (reachable circleImporter (.ofString "/app/theme.scss") c).value =
          (out.answer (.ofString "/app/theme.scss") failure, out.kept) ∧
        (out.files.Pairwise fun p q => p.same q = false) ∧
        out.files.length ≤ circle.existing.card + 1 := by
  have hempty : Caches.Filled circle.toFileSystem .empty := .empty
  have hc := hempty.searched circleImporter.config (.ofString "/app") (.ofString "/app/main.scss")
  exact ⟨hc, search_ends circle circleImporter.config (.ofString "/app")
    (.ofString "/app/theme.scss") hc⟩

end Stylesheet.Dependency
