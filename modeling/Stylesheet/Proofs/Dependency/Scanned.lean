import Stylesheet.Proofs.Dependency.Reachability

set_option autoImplicit false

/-! # The files that searches scan

A search keeps a scan of every file that it visits, if it is no plain CSS and can be read
(`Scans`), and of nothing else. So the files of which a scan is kept after a search are those of
before and the ones that the search scans (`mem_scanned_reachable`), whatever was kept before; a
search that fails leaves nothing behind.
-/

namespace Stylesheet.Dependency

namespace Caches

def scanned (c : Caches) : List Path := c.imports.map fun k => k.1.1

/-- The file of a kept scan is one more, unless it is among the others. -/
theorem scannedFiles_cons (k : (Path × Bool) × List String)
    (imports : List ((Path × Bool) × List String))
    (resolved : List ((Path × String) × Option Path)) :
    scannedFiles ⟨k :: imports, resolved⟩ =
      let others := scannedFiles ⟨imports, resolved⟩
      if others.any (·.same k.1.1) then others else k.1.1 :: others := rfl

/-- Among tidy paths the different files are those that differ as paths. -/
theorem mem_scannedFiles {c : Caches} (h : ∀ p ∈ c.scanned, p.Tidy) :
    c.scannedFiles.Nodup ∧ ∀ p, p ∈ c.scannedFiles ↔ p ∈ c.scanned := by
  obtain ⟨imports, resolved⟩ := c
  unfold scanned at *
  induction imports with
  | nil => simp [scannedFiles]
  | cons k imports ih =>
      obtain ⟨hnodup, hmem⟩ := ih fun p hp => h p (List.mem_cons_of_mem k.1.1 hp)
      have hfile : k.1.1.Tidy := h k.1.1 List.mem_cons_self
      have htidy : ∀ q ∈ scannedFiles ⟨imports, resolved⟩, q.Tidy :=
        fun q hq => h q (List.mem_cons_of_mem k.1.1 ((hmem q).1 hq))
      have hany := Path.any_same_iff htidy hfile
      rw [scannedFiles_cons, List.map_cons]
      dsimp only
      split
      · next hold =>
          refine ⟨hnodup, fun p => ?_⟩
          rw [hmem, List.mem_cons]
          constructor
          · exact Or.inr
          · rintro (rfl | hp)
            · exact (hmem _).1 (hany.1 hold)
            · exact hp
      · next hnew =>
          refine ⟨List.nodup_cons.2 ⟨fun hold => hnew (hany.2 hold), hnodup⟩, fun p => ?_⟩
          rw [List.mem_cons, List.mem_cons, hmem]

theorem Sound.tidy {i : Importer} {c : Caches} (hc : c.Sound i Path.Tidy) :
    ∀ p ∈ c.scanned, p.Tidy := by
  intro p hp
  obtain ⟨k, hk, rfl⟩ := List.mem_map.1 hp
  exact (hc.imports k hk).1

end Caches

variable (i : Importer)

/-- Whether a search from an entry scans a file that it visits. -/
def Scans (entry file : Path) : Prop :=
  Dialect.ofPath file ≠ .css ∧ (scan i file (file.same entry)).isOk = true

variable {i} {c : Caches} {entry file : Path}

theorem mem_scanned_importsFor (hc : c.Sound i Path.Tidy) (hf : file.Tidy) (isEntry : Bool)
    (p : Path) : p ∈ (importsFor i file isEntry c).value.2.scanned ↔
      p ∈ c.scanned ∨ p = file ∧ (scan i file isEntry).isOk = true := by
  unfold importsFor
  cases hk : c.imports? file isEntry with
  | some specs =>
      -- what is found was kept under the path of the file itself
      obtain ⟨q, hq, hsame⟩ := Caches.exists_of_imports? hk
      have heq : q = file := (hc.imports _ hq).1.eq_of_same hf hsame
      have hold : file ∈ c.scanned := List.mem_map.2 ⟨_, hq, heq⟩
      constructor
      · exact Or.inl
      · rintro (hp | ⟨rfl, -⟩)
        · exact hp
        · exact hold
  | none =>
      simp only [Traced.value_bind]
      unfold scan
      cases (i.readSource file isEntry).value with
      | error e => simp [Except.map, Except.isOk, Except.toBool]
      | ok source =>
          simp only [Traced.value_pure, Caches.scanned, Caches.keepImports, List.map_cons,
            List.mem_cons, Except.map, Except.isOk, Except.toBool, and_true]
          exact Or.comm

/-- Lookups scan nothing. -/
theorem imports_resolve (dir : Path) (specifier : String) :
    (resolve i dir specifier c).value.2.imports = c.imports := by
  unfold resolve
  cases c.resolved? dir specifier with
  | some answer => rfl
  | none =>
      simp only [Traced.value_bind]
      cases (i.canonicalPath specifier dir).value with
      | error e => rfl
      | ok answer => rfl

theorem imports_follow (file : Path) (specs : List String) :
    (follow i file specs c).value.2.imports = c.imports := by
  induction specs generalizing c with
  | nil => rfl
  | cons spec specs ih =>
      rw [follow, Traced.value_bind, Traced.value_bind]
      have hrest := @ih (resolve i file.parentOrSelf spec c).value.2
      rw [imports_resolve] at hrest
      cases (resolve i file.parentOrSelf spec c).value.1 with
      | error e => exact hrest
      | ok answer =>
          cases answer with
          | none => exact hrest
          | some p => exact hrest

/-- A visit scans the file visited, if it can, and nothing else. -/
theorem mem_scanned_visit (hc : c.Sound i Path.Tidy) (hf : file.Tidy) (p : Path) :
    p ∈ (visit i entry file c).value.2.scanned ↔
      p ∈ c.scanned ∨ p = file ∧ Scans i entry file := by
  unfold visit Scans
  by_cases hcss : Dialect.ofPath file = .css
  · simp [hcss]
  · have hmem := mem_scanned_importsFor hc hf (file.same entry) p
    rw [if_neg hcss, Traced.value_bind]
    generalize (importsFor i file (file.same entry) c).value = outcome at hmem ⊢
    obtain ⟨answer, c'⟩ := outcome
    simp only [ne_eq, hcss, not_false_eq_true, true_and]
    rw [← hmem]
    cases answer with
    | error e => rfl
    | ok specs =>
        have himports := imports_follow (i := i) (c := c') file specs
        simp only [Caches.scanned, Traced.value_bind, Traced.value_pure, himports]

/-- What a search has seen is among what it finds. -/
theorem mem_files_of_mem_seen {budget : Nat} {stack seen : List Path} {missing : List Unresolved}
    {deps : EntryDeps} (h : explore i entry budget stack seen missing = .ok deps) :
    ∀ p ∈ seen, p ∈ deps.files := by
  induction budget generalizing stack seen missing with
  | zero =>
      rw [explore] at h
      split at h
      · cases h
        simp
      · cases h
  | succ budget ih =>
      rw [explore] at h
      split at h
      · cases h
        simp
      · dsimp only at h
        split at h
        · cases h
        · intro p hp
          exact ih h p (List.mem_cons_of_mem _ hp)

/-- A search that ends has scanned what it has seen. -/
theorem mem_scanned_of_seen {seen : List Path} {missing : List Unresolved}
    (hseen : ∀ p ∈ seen, Scans i entry p → p ∈ c.scanned) {deps : EntryDeps}
    (h : (.ok ⟨entry, seen.reverse, missing⟩ : Except Failure EntryDeps) = .ok deps) (p : Path) :
    p ∈ c.scanned ↔ p ∈ c.scanned ∨ p ∈ deps.files ∧ Scans i entry p := by
  cases h
  constructor
  · exact Or.inl
  · rintro (hp | ⟨hp, hscans⟩)
    · exact hp
    · exact hseen p (List.mem_reverse.1 hp) hscans

/-- After a visit the file visited is scanned, and what was scanned before still is. -/
theorem mem_scanned_of_mem_cons (hc : c.Sound i Path.Tidy) (hf : file.Tidy) {seen : List Path}
    (hseen : ∀ p ∈ seen, Scans i entry p → p ∈ c.scanned) :
    ∀ p ∈ file :: seen, Scans i entry p → p ∈ (visit i entry file c).value.2.scanned := by
  intro p hp hscans
  rw [mem_scanned_visit hc hf]
  rcases List.mem_cons.1 hp with rfl | hp
  · exact Or.inr ⟨rfl, hscans⟩
  · exact Or.inl (hseen p hp hscans)

/-- A search that succeeds scans what it finds. Of the files seen before, those that it would scan
are scanned already. -/
theorem mem_scanned_walk (hc : c.Sound i Path.Tidy) {budget : Nat} {stack seen : List Path}
    {missing : List Unresolved} (hstack : ∀ p ∈ stack, p.Tidy)
    (hseen : ∀ p ∈ seen, Scans i entry p → p ∈ c.scanned) {deps : EntryDeps}
    (h : (walk i entry budget stack seen missing c).value.1 = .ok deps) (p : Path) :
    p ∈ (walk i entry budget stack seen missing c).value.2.scanned ↔
      p ∈ c.scanned ∨ p ∈ deps.files ∧ Scans i entry p := by
  induction budget generalizing c stack seen missing with
  | zero =>
      rw [walk] at h ⊢
      cases hdrop : stack.dropWhile fun q => seen.any (·.same q) with
      | nil =>
          rw [hdrop] at h
          exact mem_scanned_of_seen hseen h p
      | cons file rest =>
          rw [hdrop] at h
          cases h
  | succ budget ih =>
      rw [walk] at h ⊢
      cases hdrop : stack.dropWhile fun q => seen.any (·.same q) with
      | nil =>
          rw [hdrop] at h
          exact mem_scanned_of_seen hseen h p
      | cons file rest =>
          have htidy : ∀ q ∈ file :: rest, q.Tidy :=
            fun q hq => hstack q ((List.dropWhile_sublist _).subset (hdrop ▸ hq))
          have hf := htidy file (by simp)
          obtain ⟨hans, hsound, -⟩ := visit_answers (uniform_tidy i) hc hf entry
          have hmem := @mem_scanned_visit i c entry file hc hf p
          have hseen' := mem_scanned_of_mem_cons hc hf hseen
          have hchildren := fun found => @look_children i _ (uniform_tidy i) entry file hf found
          rw [hdrop] at h
          simp only [Traced.value_bind, ← hans] at h hchildren ⊢
          generalize (visit i entry file c).value = visited at h hsound hmem hseen' hchildren ⊢
          obtain ⟨answer, c'⟩ := visited
          cases answer with
          | error e => cases h
          | ok found =>
              have hmore : ∀ q ∈ found.children.filter (fun p => !(file :: seen).any (·.same p))
                  ++ rest, q.Tidy := by
                intro q hq
                rcases List.mem_append.1 hq with hq | hq
                · exact hchildren found rfl q (List.mem_filter.1 hq).1
                · exact htidy q (by simp [hq])
              have hfresh := (walk_answers (uniform_tidy i) hsound entry budget _ hmore
                (file :: seen) (missing ++ found.unresolved)).answer
              have hfile := mem_files_of_mem_seen (hfresh.symm.trans h) file (by simp)
              dsimp only at hmem
              rw [ih hsound hmore hseen' h, hmem]
              constructor
              · rintro ((hp | ⟨rfl, hscans⟩) | hp)
                · exact Or.inl hp
                · exact Or.inr ⟨hfile, hscans⟩
                · exact Or.inr hp
              · rintro (hp | hp)
                · exact Or.inl (Or.inl hp)
                · exact Or.inr hp

/-! ## One search after others -/

/-- The answer of a search with sound caches is that with empty ones. -/
theorem reachable_answers (hc : c.Sound i Path.Tidy) (hentry : entry.Tidy) :
    Answers i Path.Tidy c (reachable i entry c).value (reachable i entry .empty).value.1 := by
  have hstack : ∀ p ∈ [entry], p.Tidy := List.forall_mem_singleton.2 hentry
  have h := walk_answers (uniform_tidy i) hc entry (i.fs.capacity + 1) _ hstack [] []
  have hempty := walk_answers (uniform_tidy i) (Caches.sound_empty i _) entry (i.fs.capacity + 1) _
    hstack [] []
  exact ⟨h.answer.trans hempty.answer.symm, h.sound, h.keeps⟩

/-- A search fails exactly if the entry cannot be read. -/
theorem reachable_isOk_iff (hfs : i.fs.WithinCapacity) (hentry : entry.Tidy)
    (hcss : Dialect.ofPath entry ≠ .css) :
    (reachable i entry .empty).value.1.isOk = (i.readSource entry true).value.isOk := by
  cases hread : (i.readSource entry true).value with
  | error e =>
      rw [reachable_unreadable hentry hcss hread]
      rfl
  | ok text =>
      obtain ⟨files, -, hfiles⟩ := reachable_eq hfs hentry (Or.inr ⟨text, hread⟩)
      rw [hfiles]
      rfl

/-- A search whose entry cannot be read scans nothing. -/
theorem scanned_reachable_unreadable (hc : c.Sound i Path.Tidy) (hentry : entry.Tidy)
    (hcss : Dialect.ofPath entry ≠ .css) {e : Failure}
    (hread : (i.readSource entry true).value = .error e) (p : Path) :
    p ∈ (reachable i entry c).value.2.scanned ↔ p ∈ c.scanned := by
  have hscan : scan i entry true = .error e := by
    rw [scan, hread]
    rfl
  have hlook : look i entry entry = .error e := by
    unfold look
    rw [if_neg hcss, entry.same_refl, hscan]
    rfl
  have hans := (visit_answers (uniform_tidy i) hc hentry entry).answer
  have hmem := @mem_scanned_visit i c entry entry hc hentry p
  have hscans : ¬ Scans i entry entry := by
    rintro ⟨-, hok⟩
    rw [entry.same_refl, hscan] at hok
    cases hok
  rw [hlook] at hans
  have hdrop : [entry].dropWhile (fun q => ([] : List Path).any (·.same q)) = [entry] := rfl
  unfold reachable
  rw [walk, hdrop]
  simp only [Traced.value_bind]
  generalize (visit i entry entry c).value = visited at hans hmem ⊢
  obtain ⟨answer, c'⟩ := visited
  cases hans
  simpa [hscans] using hmem

/-- **What a search adds to the files that are scanned**: those that it finds, if it finds any,
and would scan without any caches. -/
theorem mem_scanned_reachable (hfs : i.fs.WithinCapacity) (hc : c.Sound i Path.Tidy)
    (hentry : entry.Tidy) (hcss : Dialect.ofPath entry ≠ .css) (p : Path) :
    p ∈ (reachable i entry c).value.2.scanned ↔ p ∈ c.scanned ∨
      ∃ deps, (reachable i entry .empty).value.1 = .ok deps ∧ p ∈ deps.files ∧
        Scans i entry p := by
  have hans := (reachable_answers hc hentry).answer
  cases hread : (i.readSource entry true).value with
  | error e =>
      rw [scanned_reachable_unreadable hc hentry hcss hread, reachable_unreadable hentry hcss hread]
      simp
  | ok text =>
      obtain ⟨files, -, hfiles⟩ := reachable_eq hfs hentry (Or.inr ⟨text, hread⟩)
      rw [hfiles] at hans ⊢
      have hstack : ∀ q ∈ [entry], q.Tidy := List.forall_mem_singleton.2 hentry
      have hwalk := mem_scanned_walk hc hstack (by simp) hans p
      rw [reachable, hwalk]
      simp

end Stylesheet.Dependency
