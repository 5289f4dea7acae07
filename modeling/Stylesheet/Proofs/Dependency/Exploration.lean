import Stylesheet.Dependency.Walk
import Stylesheet.Proofs.Importer.Answers

set_option autoImplicit false

/-! # Searches without caches

`explore` is the search for reachable stylesheets that reads every file and looks up every
specifier afresh. A search with caches gives the same as long as they are *sound*: each kept
scan is that of a source which could be read, each kept answer is the one a lookup gives, and
no key is kept twice (`Caches.Sound`). Every operation keeps soundness and hides nothing that
was kept before (`Caches.Extends`).

A cache takes component-equal paths for one another, so the files that a search meets have to
be read alike, and looked up from alike, however they are spelled (`Uniform`). Tidy paths are
never spelled in two ways (`uniform_tidy`).
-/

namespace Stylesheet.Dependency

variable (i : Importer)

/-! ## Looking afresh -/

/-- What a file imports, read as the entry or as an import. Nothing is kept, so each file is read
and scanned again whenever it is asked for. -/
def scan (file : Path) (isEntry : Bool) : Except Failure (List String) :=
  (i.readSource file isEntry).value.map fun source => Scan.scanImports source (.ofPath file)

def lookUp (file : Path) (specifier : String) : Except Failure (Option Path) :=
  (i.canonicalPath specifier file.parentOrSelf).value

/-- The stylesheet that a specifier in a file leads to. -/
def child? (file : Path) (specifier : String) : Option Path :=
  match lookUp i file specifier with
  | .ok answer => answer
  | .error _ => none

/-- What is told of a specifier in a file that leads nowhere. -/
def unresolved? (file : Path) (specifier : String) : Option Unresolved :=
  match lookUp i file specifier with
  | .ok (some _) => none
  | .ok none => some ⟨file, specifier, none⟩
  | .error e => some ⟨file, specifier, some e.message⟩

def followed (file : Path) (specs : List String) : Followed :=
  ⟨specs.filterMap (child? i file), specs.filterMap (unresolved? i file)⟩

/-- What is found in one file: where its imports lead, and those that lead nowhere. Only the entry
has to be readable. -/
def look (entry file : Path) : Except Failure Followed :=
  if Dialect.ofPath file = .css then .ok ⟨[], []⟩
  else match scan i file (file.same entry) with
    | .error e => if file.same entry then .error e else .ok ⟨[], []⟩
    | .ok specs => .ok (followed i file specs)

/-- Looks into the files of the stack, at most as many as the budget allows. All children go on the
stack here, also those visited before, which makes no difference (`explore_congr`). -/
def explore (entry : Path) : Nat → List Path → List Path → List Unresolved →
    Except Failure EntryDeps
  | budget, stack, seen, missing =>
    match stack.dropWhile fun p => seen.any (·.same p) with
    | [] => .ok ⟨entry, seen.reverse, missing⟩
    | file :: rest =>
      match budget with
      | 0 => .error .endless
      | budget + 1 =>
        match look i entry file with
        | .error e => .error e
        | .ok followed =>
          explore entry budget (followed.children ++ rest) (file :: seen)
            (missing ++ followed.unresolved)

theorem dropWhile_eq_nil_of_filter {α : Type} {p : α → Bool} {l : List α}
    (h : l.filter (fun a => !p a) = []) : l.dropWhile p = [] := by
  refine List.dropWhile_eq_nil_iff.2 fun a ha => ?_
  simpa using List.filter_eq_nil_iff.1 h a ha

theorem dropWhile_eq_cons_of_filter {α : Type} {p : α → Bool} {l rest : List α} {a : α}
    (h : l.filter (fun a => !p a) = a :: rest) :
    ∃ rest', l.dropWhile p = a :: rest' ∧ rest'.filter (fun a => !p a) = rest := by
  obtain ⟨front, rest', rfl, hfront, ha, hrest⟩ := List.filter_eq_cons_iff.1 h
  have hpos : ∀ b ∈ front, p b = true := fun b hb => by simpa using hfront b hb
  refine ⟨rest', ?_, hrest⟩
  rw [List.dropWhile_append_of_pos hpos, List.dropWhile_cons_of_neg (by simpa using ha)]

/-- Whether a file was not visited, under whatever spelling. -/
def isNew (seen : List Path) (p : Path) : Bool := !seen.any (·.same p)

theorem filter_isNew_cons (file : Path) (seen stack : List Path) :
    stack.filter (isNew (file :: seen)) =
      (stack.filter (isNew seen)).filter fun p => !file.same p := by
  rw [List.filter_filter]
  exact List.filter_congr fun p _ => by rw [isNew, List.any_cons, Bool.not_or, isNew]

/-- A search goes by what is new on its stack. -/
theorem explore_congr {entry : Path} {budget : Nat} {stack stack' seen : List Path}
    {missing : List Unresolved} (h : stack.filter (isNew seen) = stack'.filter (isNew seen)) :
    explore i entry budget stack seen missing = explore i entry budget stack' seen missing := by
  induction budget generalizing stack stack' seen missing with
  | zero =>
      rw [explore, explore]
      cases hnew : stack.filter (isNew seen) with
      | nil =>
          rw [dropWhile_eq_nil_of_filter hnew, dropWhile_eq_nil_of_filter (h.symm.trans hnew)]
      | cons file rest =>
          obtain ⟨left, hdrop, -⟩ := dropWhile_eq_cons_of_filter hnew
          obtain ⟨left', hdrop', -⟩ := dropWhile_eq_cons_of_filter (h.symm.trans hnew)
          rw [hdrop, hdrop']
  | succ budget ih =>
      rw [explore, explore]
      cases hnew : stack.filter (isNew seen) with
      | nil =>
          rw [dropWhile_eq_nil_of_filter hnew, dropWhile_eq_nil_of_filter (h.symm.trans hnew)]
      | cons file rest =>
          obtain ⟨left, hdrop, hleft⟩ := dropWhile_eq_cons_of_filter hnew
          obtain ⟨left', hdrop', hleft'⟩ := dropWhile_eq_cons_of_filter (h.symm.trans hnew)
          rw [hdrop, hdrop']
          dsimp only
          cases look i entry file with
          | error e => rfl
          | ok found =>
              -- what is left of either stack holds the same new files
              refine ih ?_
              have hsame : left.filter (isNew seen) = left'.filter (isNew seen) :=
                hleft.trans hleft'.symm
              rw [List.filter_append, List.filter_append, filter_isNew_cons file seen left,
                filter_isNew_cons file seen left', hsame]

/-! ## What may be spelled in several ways -/

/-- Files of `S` that are the same are read alike and looked up from alike, and imports lead
from `S` to `S`. -/
structure Uniform (S : Path → Prop) : Prop where
  scan : ∀ p q : Path, S p → S q → p.same q = true → ∀ isEntry,
    Agree Eq (scan i p isEntry) (scan i q isEntry)
  lookUp : ∀ p q : Path, S p → S q → p.parentOrSelf.same q.parentOrSelf = true → ∀ specifier,
    Agree Eq (lookUp i p specifier) (lookUp i q specifier)
  closed : ∀ (p q : Path) (specifier : String), S p → child? i p specifier = some q → S q

/-- What a specifier leads to has the name of a stylesheet. -/
theorem sheetName_of_child? {file q : Path} {specifier : String}
    (h : child? i file specifier = some q) : i.fs.found q = true ∧ Lookup.SheetName q := by
  unfold child? lookUp at h
  split at h
  · next answer hans =>
      subst h
      exact i.sheetName_of_canonicalPath hans
  · cases h

/-- No tidy path is the same as another. -/
theorem uniform_tidy : Uniform i Path.Tidy where
  scan p q hp hq h isEntry := by
    rw [hp.eq_of_same hq h]
    exact Agree.refl _
  lookUp p q hp hq h specifier := by
    unfold Dependency.lookUp
    rw [hp.parentOrSelf.eq_of_same hq.parentOrSelf h]
    exact Agree.refl _
  closed _ _ _ _ h := (sheetName_of_child? i h).2.tidy

/-- Files in any spelling, next to the tidy ones, are uniform if they are read alike and the
hooks and the package resolver go by components. -/
theorem uniform_of_ignoresSpelling (hc : i.config.IgnoresSpelling) {files : Path → Prop}
    (hread : ∀ p, files p → ∀ q : Path, files q ∨ q.Tidy → p.same q = true →
      (i.fs.read p).toOption = (i.fs.read q).toOption) :
    Uniform i fun p => files p ∨ p.Tidy where
  scan p q hp hq h isEntry := by
    have hr : (i.fs.read p).toOption = (i.fs.read q).toOption := by
      rcases hp with hp | hp
      · exact hread p hp q hq h
      · rcases hq with hq | hq
        · exact (hread q hq p (Or.inr hp) (Path.same_iff.2 (Path.same_iff.1 h).symm)).symm
        · rw [hp.eq_of_same hq h]
    have hd : Dialect.ofPath p = Dialect.ofPath q := by
      rw [Dialect.ofPath, Dialect.ofPath, Path.extension?_eq_of_same h]
    exact (i.readSource_agree hc h hr isEntry).map fun text text' htext => by rw [htext, hd]
  lookUp p q _ _ h specifier := i.canonicalPath_agree hc h specifier
  closed _ _ _ _ h := Or.inr (sheetName_of_child? i h).2.tidy

/-! ## Sound caches -/

namespace Caches

variable (S : Path → Prop)

/-- Everything kept is what a fresh look at a file of `S` gives, and no key is kept twice. This is
what every step of a search keeps up. -/
structure Sound (c : Caches) : Prop where
  imports : ∀ k ∈ c.imports, S k.1.1 ∧ scan i k.1.1 k.1.2 = .ok k.2
  resolved : ∀ k ∈ c.resolved, ∃ file : Path, S file ∧ k.1.1 = file.parentOrSelf ∧
    lookUp i file k.1.2 = .ok k.2
  importsOnce : c.imports.Pairwise fun a b => ¬ (a.1.1.same b.1.1 = true ∧ a.1.2 = b.1.2)
  resolvedOnce : c.resolved.Pairwise fun a b => ¬ (a.1.1.same b.1.1 = true ∧ a.1.2 = b.1.2)

/-- Whatever is found in `c` is found in `c'` with the same answer. Searches only add to their
caches. -/
structure Extends (c c' : Caches) : Prop where
  imports : ∀ file isEntry specs, c.imports? file isEntry = some specs →
    c'.imports? file isEntry = some specs
  resolved : ∀ dir specifier answer, c.resolved? dir specifier = some answer →
    c'.resolved? dir specifier = some answer

theorem Extends.refl (c : Caches) : c.Extends c := ⟨fun _ _ _ h => h, fun _ _ _ h => h⟩

theorem Extends.trans {c c' c'' : Caches} (h : c.Extends c') (h' : c'.Extends c'') :
    c.Extends c'' :=
  ⟨fun f e s hs => h'.imports f e s (h.imports f e s hs),
    fun d s a ha => h'.resolved d s a (h.resolved d s a ha)⟩

theorem sound_empty : Sound i S empty :=
  ⟨by simp [empty], by simp [empty], by simp [empty], by simp [empty]⟩

/-- What is found in the cache of scans was kept under a component-equal path. -/
theorem exists_of_imports? {c : Caches} {file : Path} {isEntry : Bool} {specs : List String}
    (h : c.imports? file isEntry = some specs) :
    ∃ p, ((p, isEntry), specs) ∈ c.imports ∧ p.same file = true := by
  obtain ⟨⟨⟨p, e⟩, ss⟩, hf, rfl⟩ := Option.map_eq_some_iff.1 h
  have hp := List.find?_some hf
  simp only [Bool.and_eq_true, beq_iff_eq] at hp
  obtain ⟨hp, rfl⟩ := hp
  exact ⟨p, List.mem_of_find?_eq_some hf, hp⟩

theorem exists_of_resolved? {c : Caches} {dir : Path} {specifier : String} {answer : Option Path}
    (h : c.resolved? dir specifier = some answer) :
    ∃ d, ((d, specifier), answer) ∈ c.resolved ∧ d.same dir = true := by
  obtain ⟨⟨⟨d, s⟩, a⟩, hf, rfl⟩ := Option.map_eq_some_iff.1 h
  have hd := List.find?_some hf
  simp only [Bool.and_eq_true, beq_iff_eq] at hd
  obtain ⟨hd, rfl⟩ := hd
  exact ⟨d, List.mem_of_find?_eq_some hf, hd⟩

/-- What is not found in the cache of scans was not kept under any spelling. -/
theorem not_same_of_imports?_eq_none {c : Caches} {file : Path} {isEntry : Bool}
    (h : c.imports? file isEntry = none) :
    ∀ k ∈ c.imports, ¬ (file.same k.1.1 = true ∧ isEntry = k.1.2) := by
  rintro ⟨⟨p, e⟩, ss⟩ hk ⟨hp, rfl⟩
  have hmiss := List.find?_eq_none.1 (Option.map_eq_none_iff.1 h) _ hk
  simp only [Bool.and_eq_true, beq_self_eq_true, and_true] at hmiss
  exact hmiss (Path.same_iff.2 (Path.same_iff.1 hp).symm)

theorem not_same_of_resolved?_eq_none {c : Caches} {dir : Path} {specifier : String}
    (h : c.resolved? dir specifier = none) :
    ∀ k ∈ c.resolved, ¬ (dir.same k.1.1 = true ∧ specifier = k.1.2) := by
  rintro ⟨⟨d, s⟩, a⟩ hk ⟨hd, rfl⟩
  have hmiss := List.find?_eq_none.1 (Option.map_eq_none_iff.1 h) _ hk
  simp only [Bool.and_eq_true, beq_self_eq_true, and_true] at hmiss
  exact hmiss (Path.same_iff.2 (Path.same_iff.1 hd).symm)

variable {i S}

/-- Keeping the scan of a file that was not kept before. -/
theorem Sound.keepImports {c : Caches} (hc : Sound i S c) {file : Path} (hf : S file)
    {isEntry : Bool} {specs : List String} (hs : Dependency.scan i file isEntry = .ok specs)
    (hnew : c.imports? file isEntry = none) :
    Sound i S (c.keepImports file isEntry specs) ∧
      c.Extends (c.keepImports file isEntry specs) := by
  refine ⟨⟨?_, hc.resolved, ?_, hc.resolvedOnce⟩, ?_, fun _ _ _ h => h⟩
  · intro k hk
    rcases List.mem_cons.1 hk with rfl | hk
    · exact ⟨hf, hs⟩
    · exact hc.imports k hk
  · exact List.pairwise_cons.2 ⟨not_same_of_imports?_eq_none hnew, hc.importsOnce⟩
  · intro f e s h
    rw [imports?_keepImports]
    split
    · next hk =>
        -- a key that is found was kept before, so it is not the new one
        obtain ⟨p, hp, hpf⟩ := exists_of_imports? h
        simp only [Bool.and_eq_true, beq_iff_eq] at hk
        refine absurd ⟨?_, hk.2⟩ (not_same_of_imports?_eq_none hnew _ hp)
        exact Path.same_iff.2 ((Path.same_iff.1 hk.1).trans (Path.same_iff.1 hpf).symm)
    · exact h

/-- Keeping the answer to a lookup that was not kept before. -/
theorem Sound.keepResolved {c : Caches} (hc : Sound i S c) {file : Path} (hf : S file)
    {specifier : String} {answer : Option Path}
    (hl : Dependency.lookUp i file specifier = .ok answer)
    (hnew : c.resolved? file.parentOrSelf specifier = none) :
    Sound i S (c.keepResolved file.parentOrSelf specifier answer) ∧
      c.Extends (c.keepResolved file.parentOrSelf specifier answer) := by
  refine ⟨⟨hc.imports, ?_, hc.importsOnce, ?_⟩, fun _ _ _ h => h, ?_⟩
  · intro k hk
    rcases List.mem_cons.1 hk with rfl | hk
    · exact ⟨file, hf, rfl, hl⟩
    · exact hc.resolved k hk
  · exact List.pairwise_cons.2 ⟨not_same_of_resolved?_eq_none hnew, hc.resolvedOnce⟩
  · intro d s a h
    rw [resolved?_keepResolved]
    split
    · next hk =>
        obtain ⟨p, hp, hpd⟩ := exists_of_resolved? h
        simp only [Bool.and_eq_true, beq_iff_eq] at hk
        refine absurd ⟨?_, hk.2⟩ (not_same_of_resolved?_eq_none hnew _ hp)
        exact Path.same_iff.2 ((Path.same_iff.1 hk.1).trans (Path.same_iff.1 hpd).symm)
    · exact h

end Caches

/-! ## Operations on sound caches -/

/-- An outcome of an operation on the caches `c`: the answer is the one looked up afresh, and
the caches stay sound and hide nothing. -/
structure Answers {α : Type} (S : Path → Prop) (c : Caches) (outcome : α × Caches) (fresh : α) :
    Prop where
  answer : outcome.1 = fresh
  sound : outcome.2.Sound i S
  keeps : c.Extends outcome.2

variable {i} {S : Path → Prop} {c : Caches}

theorem Caches.Sound.answers {α : Type} (hc : c.Sound i S) (a : α) : Answers i S c (a, c) a :=
  ⟨rfl, hc, Caches.Extends.refl c⟩

theorem importsFor_answers (hS : Uniform i S) (hc : c.Sound i S) {file : Path} (hf : S file)
    (isEntry : Bool) :
    Answers i S c (importsFor i file isEntry c).value (scan i file isEntry) := by
  unfold importsFor
  cases hk : c.imports? file isEntry with
  | some specs =>
      obtain ⟨p, hp, hpf⟩ := Caches.exists_of_imports? hk
      obtain ⟨hSp, hscan⟩ := hc.imports _ hp
      have hfile := (hS.scan p file hSp hf hpf isEntry).ok hscan
      rw [hfile]
      exact hc.answers _
  | none =>
      simp only [Traced.value_bind]
      cases hr : (i.readSource file isEntry).value with
      | error e =>
          have hs : scan i file isEntry = .error e := by rw [scan, hr]; rfl
          rw [hs]
          exact hc.answers _
      | ok source =>
          have hs : scan i file isEntry = .ok (Scan.scanImports source (.ofPath file)) := by
            rw [scan, hr]
            rfl
          obtain ⟨hsound, hext⟩ := hc.keepImports hf hs hk
          exact ⟨hs.symm, hsound, hext⟩

theorem resolve_answers (hS : Uniform i S) (hc : c.Sound i S) {file : Path} (hf : S file)
    (specifier : String) :
    Answers i S c (resolve i file.parentOrSelf specifier c).value (lookUp i file specifier) := by
  unfold resolve
  cases hk : c.resolved? file.parentOrSelf specifier with
  | some answer =>
      obtain ⟨d, hd, hdir⟩ := Caches.exists_of_resolved? hk
      obtain ⟨p, hSp, hdp, hl⟩ := hc.resolved _ hd
      simp only at hdp hl
      rw [hdp] at hdir
      rw [(hS.lookUp p file hSp hf hdir specifier).ok hl]
      exact hc.answers _
  | none =>
      simp only [Traced.value_bind]
      have hl : lookUp i file specifier = (i.canonicalPath specifier file.parentOrSelf).value := rfl
      cases hr : (i.canonicalPath specifier file.parentOrSelf).value with
      | error e =>
          rw [hl, hr]
          exact hc.answers _
      | ok answer =>
          obtain ⟨hsound, hext⟩ := hc.keepResolved hf (hl.trans hr) hk
          exact ⟨(hl.trans hr).symm, hsound, hext⟩

theorem follow_answers (hS : Uniform i S) (hc : c.Sound i S) {file : Path} (hf : S file)
    (specs : List String) :
    Answers i S c (follow i file specs c).value (followed i file specs) := by
  induction specs generalizing c with
  | nil => exact hc.answers _
  | cons spec specs ih =>
      obtain ⟨hans, hsound, hext⟩ := resolve_answers hS hc hf spec
      obtain ⟨hans', hsound', hext'⟩ := ih hsound
      rw [follow, Traced.value_bind, Traced.value_bind, hans]
      unfold followed child? unresolved? at hans' ⊢
      rw [List.filterMap_cons, List.filterMap_cons]
      cases lookUp i file spec with
      | error e => exact ⟨by simp [hans'], hsound', hext.trans hext'⟩
      | ok answer =>
          cases answer with
          | none => exact ⟨by simp [hans'], hsound', hext.trans hext'⟩
          | some p => exact ⟨by simp [hans'], hsound', hext.trans hext'⟩

theorem visit_answers (hS : Uniform i S) (hc : c.Sound i S) {file : Path} (hf : S file)
    (entry : Path) : Answers i S c (visit i entry file c).value (look i entry file) := by
  unfold visit look
  split
  · exact hc.answers _
  · obtain ⟨hans, hsound, hext⟩ := importsFor_answers hS hc hf (file.same entry)
    rw [Traced.value_bind]
    generalize (importsFor i file (file.same entry) c).value = scanned at hans hsound hext ⊢
    obtain ⟨answer, c'⟩ := scanned
    rw [← hans]
    cases answer with
    | error e => exact ⟨rfl, hsound, hext⟩
    | ok specs =>
        obtain ⟨hans', hsound', hext'⟩ := follow_answers hS hsound hf specs
        exact ⟨congrArg Except.ok hans', hsound', hext.trans hext'⟩

theorem look_children (hS : Uniform i S) {entry file : Path} (hf : S file) {found : Followed}
    (h : look i entry file = .ok found) : ∀ q ∈ found.children, S q := by
  unfold look at h
  split at h
  · cases h
    simp
  · split at h
    · split at h
      · cases h
      · cases h
        simp
    · cases h
      intro q hq
      obtain ⟨spec, -, hspec⟩ := List.mem_filterMap.1 hq
      exact hS.closed file q spec hf hspec

/-- A search with sound caches gives what a search without caches gives. -/
theorem walk_answers (hS : Uniform i S) (hc : c.Sound i S) (entry : Path) (budget : Nat)
    (stack : List Path) (hstack : ∀ p ∈ stack, S p) (seen : List Path) (missing : List Unresolved) :
    Answers i S c (walk i entry budget stack seen missing c).value
      (explore i entry budget stack seen missing) := by
  induction budget generalizing c stack seen missing with
  | zero =>
      rw [walk, explore]
      cases stack.dropWhile fun p => seen.any (·.same p) with
      | nil => exact hc.answers _
      | cons file rest => exact hc.answers _
  | succ budget ih =>
      rw [walk, explore]
      have hdrop : ∀ p ∈ stack.dropWhile fun p => seen.any (·.same p), S p :=
        fun p hp => hstack p ((List.dropWhile_sublist _).subset hp)
      cases hd : stack.dropWhile fun p => seen.any (·.same p) with
      | nil => exact hc.answers _
      | cons file rest =>
          rw [hd] at hdrop
          have hf := hdrop file (by simp)
          -- looking into one file leaves sound caches, and the rest of the search starts with these
          obtain ⟨hans, hsound, hext⟩ := visit_answers hS hc hf entry
          have hchildren := fun found => @look_children i S hS entry file hf found
          simp only [Traced.value_bind, ← hans] at hchildren ⊢
          generalize (visit i entry file c).value = visited at hsound hext hchildren ⊢
          obtain ⟨answer, c'⟩ := visited
          cases answer with
          | error e => exact ⟨rfl, hsound, hext⟩
          | ok found =>
              have hmore : ∀ p ∈ found.children.filter (isNew (file :: seen)) ++ rest, S p := by
                intro p hp
                rcases List.mem_append.1 hp with hp | hp
                · exact hchildren found rfl p (List.mem_filter.1 hp).1
                · exact hdrop p (by simp [hp])
              obtain ⟨hans', hsound', hext'⟩ := ih hsound _ hmore (file :: seen)
                (missing ++ found.unresolved)
              have hpushed : explore i entry budget
                    (found.children.filter (isNew (file :: seen)) ++ rest) (file :: seen)
                    (missing ++ found.unresolved) =
                  explore i entry budget (found.children ++ rest) (file :: seen)
                    (missing ++ found.unresolved) := by
                refine explore_congr i ?_
                rw [List.filter_append, List.filter_filter, List.filter_append]
                simp only [Bool.and_self]
              exact ⟨hans'.trans hpushed, hsound', hext.trans hext'⟩

end Stylesheet.Dependency
