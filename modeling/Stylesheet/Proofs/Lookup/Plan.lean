import Mathlib.Data.List.Nodup
import Stylesheet.FileSystem.Memory
import Stylesheet.Proofs.Importer.Answers
import Stylesheet.Proofs.Path.Ancestors

set_option autoImplicit false

/-! # The plan of a lookup

A lookup makes checks of two kinds. A guard that does not exist ends it without an answer, and a
candidate that exists is the answer. Every lookup follows a list of checks that the file system has
no part in: the checks are made in order up to the first that decides (`Follows`). For an import
without an extension that ends in a name the fourteen checks are written out (`writtenPlan`,
`withoutExtension_plan`).
-/

namespace Stylesheet

namespace Lookup

inductive Check
  /-- A directory without which there is nothing to find. -/
  | guard (p : Path)
  /-- A place where the stylesheet may be. -/
  | candidate (p : Path)

namespace Check

def path : Check → Path
  | guard p => p
  | candidate p => p

/-- Whether the lookup ends with the check: a guard is missing, or a candidate is there. -/
def decides (fs : FileSystem) : Check → Bool
  | guard p => !fs.found p
  | candidate p => fs.found p

/-- The answer of a lookup that ends with the check. -/
def answer? : Check → Option Path
  | guard _ => none
  | candidate p => some p

def event (c : Check) : Event := .probed c.path

end Check

def Stage.checks (s : Stage) : List Check := .guard s.guard :: s.candidates.map .candidate

/-- A lookup follows the checks of a plan: it makes them in order up to the first that decides and
has the answer of that one, or it makes them all and has none. Nothing else happens. -/
def Follows (fs : FileSystem) (plan : List Check) (x : Traced (Option Path)) : Prop :=
  (∃ before c after, plan = before ++ c :: after ∧ (∀ b ∈ before, b.decides fs = false) ∧
    c.decides fs = true ∧ x = ⟨c.answer?, (before ++ [c]).map Check.event⟩) ∨
  ((∀ c ∈ plan, c.decides fs = false) ∧ x = ⟨none, plan.map Check.event⟩)

variable {fs : FileSystem} {plan : List Check} {x : Traced (Option Path)} {c : Check}

/-! ## Following a plan -/

theorem follows_nil : Follows fs [] (return none) := .inr ⟨by simp, rfl⟩

theorem follows_of_decides (h : c.decides fs = true) (plan : List Check) :
    Follows fs (c :: plan) ⟨c.answer?, [c.event]⟩ :=
  .inl ⟨[], c, plan, rfl, by simp, h, rfl⟩

/-- A check that does not decide comes before what follows the others. -/
theorem Follows.cons (h : c.decides fs = false) (hx : Follows fs plan x) :
    Follows fs (c :: plan) ⟨x.value, c.event :: x.events⟩ := by
  rcases hx with ⟨before, d, after, rfl, hbefore, hd, rfl⟩ | ⟨hall, rfl⟩
  · exact .inl ⟨c :: before, d, after, rfl, by simpa [h] using hbefore, hd, rfl⟩
  · exact .inr ⟨by simpa [h] using hall, rfl⟩

/-- Checking a path and going on. -/
theorem check_bind (fs : FileSystem) (p : Path) (f : Bool → Traced (Option Path)) :
    (fs.check p >>= f) = ⟨(f (fs.found p)).value, .probed p :: (f (fs.found p)).events⟩ := rfl

/-- Candidates are tried, and where none exists something else is done. -/
theorem Follows.after_candidates (ps : List Path) (hx : Follows fs plan x) :
    Follows fs (ps.map .candidate ++ plan) (do
      match ← firstFound fs ps with
      | some p => return some p
      | none => x) := by
  induction ps with
  | nil => exact hx
  | cons p ps ih =>
      rw [firstFound, bind_assoc, check_bind]
      cases hp : fs.found p with
      | true => exact follows_of_decides (c := .candidate p) hp _
      | false => exact ih.cons (c := .candidate p) hp

theorem follows_firstFound (ps : List Path) :
    Follows fs (ps.map .candidate) (firstFound fs ps) := by
  have h := (follows_nil : Follows fs [] _).after_candidates ps
  have heta : (do
      match ← firstFound fs ps with
      | some p => return some p
      | none => return none) = firstFound fs ps := by
    refine Traced.ext ?_ ?_
    · rw [Traced.value_bind]
      cases (firstFound fs ps).value <;> rfl
    · rw [Traced.events_bind]
      cases (firstFound fs ps).value <;> simp
  rwa [List.append_nil, heta] at h

/-- The stages of a lookup are followed one after the other. -/
theorem follows_runStages (ss : List Stage) :
    Follows fs (ss.flatMap Stage.checks) (runStages fs ss) := by
  induction ss with
  | nil => exact follows_nil
  | cons s ss ih =>
      rw [runStages, check_bind, List.flatMap_cons, Stage.checks, List.cons_append]
      cases hs : fs.found s.guard with
      | true =>
          have hguard : (Check.guard s.guard).decides fs = false := by simp [Check.decides, hs]
          exact (ih.after_candidates s.candidates).cons hguard
      | false =>
          have hguard : (Check.guard s.guard).decides fs = true := by simp [Check.decides, hs]
          exact follows_of_decides hguard _

/-- Every lookup follows a plan. -/
theorem exists_follows_fromDirectory (fs : FileSystem) (dir importPath : Path) :
    ∃ plan, Follows fs plan (fromDirectory fs dir importPath) := by
  unfold fromDirectory
  dsimp only
  cases (dir.join importPath).clean.extension? with
  | some e => exact ⟨_, follows_firstFound _⟩
  | none => exact ⟨_, follows_runStages _⟩

/-- The paths seen are those of the checks made. -/
theorem probes_map_event (answer : Option Path) (cs : List Check) :
    (⟨answer, cs.map Check.event⟩ : Traced (Option Path)).probes = cs.map Check.path := by
  show (cs.map Check.event).filterMap Event.probe? = cs.map Check.path
  rw [List.filterMap_map, ← List.filterMap_eq_map]
  rfl

/-- What is checked is the beginning of the plan. -/
theorem Follows.probes_isPrefix (h : Follows fs plan x) : x.probes <+: plan.map Check.path := by
  rcases h with ⟨before, c, after, rfl, -, -, rfl⟩ | ⟨-, rfl⟩
  · have hplan : before ++ c :: after = (before ++ [c]) ++ after := by simp
    rw [probes_map_event, hplan]
    exact (List.prefix_append _ _).map Check.path
  · exact (probes_map_event none plan).symm ▸ List.prefix_rfl

/-- The first check of a plan is always made. -/
theorem Follows.head?_probes (h : Follows fs (c :: plan) x) : x.probes.head? = some c.path := by
  rcases h with ⟨before, d, after, hplan, -, -, rfl⟩ | ⟨-, rfl⟩
  · rw [probes_map_event]
    cases before with
    | nil => simp [(List.cons.inj hplan).1]
    | cons b before => simp [(List.cons.inj hplan).1]
  · rw [probes_map_event, List.map_cons, List.head?_cons]

/-- **An answer exists and is the last path that was checked.** -/
theorem Follows.found_last (h : Follows fs plan x) {p : Path} (hp : x.value = some p) :
    fs.found p = true ∧ x.probes.getLast? = some p := by
  rcases h with ⟨before, c, after, -, -, hc, rfl⟩ | ⟨-, rfl⟩
  · cases c with
    | guard q => cases hp
    | candidate q =>
        obtain rfl : q = p := Option.some.inj hp
        refine ⟨hc, ?_⟩
        rw [probes_map_event]
        simp [Check.path]
  · cases hp

/-! ## Candidates -/

/-- The names of the candidates for a path that ends in `n`. -/
def sheetNames (n : Name) : List Name :=
  extensions.flatMap fun e => [n ++ Name.dot :: e, partialMark :: (n ++ Name.dot :: e)]

/-- Each extension is written after all of the path, and the partials lie in the directory of what
stands after its last separator. -/
theorem candidates_join {p dir : Path}
    (hdir : ∀ m : Name, m.IsStep → (p.join ⟨m⟩).parent? = some dir) {n : Name}
    (hn : Path.separator ∉ n) :
    candidates (p.join ⟨n⟩) = extensions.flatMap fun e =>
      [(p.join ⟨n⟩).appendExtension e, dir.join ⟨partialMark :: (n ++ Name.dot :: e)⟩] := by
  refine List.flatMap_congr fun e he => ?_
  obtain ⟨hne, hsep, hdot⟩ := extensions_fit e he
  obtain ⟨hstep, hup⟩ := Name.isStep_append_extension hn hne hsep hdot
  simp only
  rw [Path.appendExtension_join p hn hsep, Path.asPartial?_join (hdir _ hstep) hstep hup,
    Option.toList_some]

/-- The candidates for `n` read from `p` are names in the directory that `p` means. -/
theorem map_components_candidates (p : Path) {n : Name} (hn : Path.separator ∉ n) :
    (candidates (p.join ⟨n⟩)).map Path.components =
      (sheetNames n).map fun m => p.components ++ [.name m] := by
  obtain ⟨dir, hcomponents, hdir⟩ := p.exists_parent?_join
  rw [candidates_join hdir hn, sheetNames, List.map_flatMap, List.map_flatMap]
  refine List.flatMap_congr fun e he => ?_
  obtain ⟨hne, hsep, hdot⟩ := extensions_fit e he
  obtain ⟨hstep, hup⟩ := Name.isStep_append_extension hn hne hsep hdot
  have hpartial : partialMark :: (n ++ Name.dot :: e) ≠ Name.up := by
    simp [Name.up, partialMark, Name.dot]
  rw [Path.appendExtension_join p hn hsep]
  simp [Path.components_join, hstep, hstep.partialMark_cons, Component.step_of_ne, hup, hpartial,
    hcomponents]

/-- A candidate has the extension that it is tried with. -/
theorem cutAtLast?_of_mem_pair {n m e : Name} (hdot : Name.dot ∉ e)
    (hm : m ∈ [n ++ Name.dot :: e, partialMark :: (n ++ Name.dot :: e)]) :
    ∃ stem, Text.cutAtLast? [Name.dot] m = some (stem, e) := by
  rcases List.mem_pair.1 hm with rfl | rfl
  · exact ⟨n, Text.cutAtLast?_append n hdot⟩
  · exact ⟨partialMark :: n, Text.cutAtLast?_append (partialMark :: n) hdot⟩

/-- No name is tried twice. -/
theorem nodup_sheetNames (n : Name) : (sheetNames n).Nodup := by
  have hextensions : extensions.Nodup := by decide +kernel
  refine List.nodup_flatMap.2 ⟨fun e _ => ?_, hextensions.imp_of_mem fun {e e'} he he' hne => ?_⟩
  · simp
  · intro m hm hm'
    obtain ⟨stem, hcut⟩ := cutAtLast?_of_mem_pair (extensions_fit e he).2.2 hm
    obtain ⟨stem', hcut'⟩ := cutAtLast?_of_mem_pair (extensions_fit e' he').2.2 hm'
    rw [hcut] at hcut'
    exact hne (Prod.mk.inj (Option.some.inj hcut')).2

theorem lt_length_of_mem_sheetNames {n m : Name} (h : m ∈ sheetNames n) : n.length < m.length := by
  obtain ⟨e, -, he⟩ := List.mem_flatMap.1 h
  rcases List.mem_pair.1 he with rfl | rfl
  · rw [List.length_append, List.length_cons]
    omega
  · rw [List.length_cons, List.length_append, List.length_cons]
    omega

/-! ## The plan written out -/

/-- The checks for the path `base`, which ends in the name `n` in the directory `dir`. -/
def writtenPlan (base dir : Path) (n : Name) : List Check :=
  let written (suffix : String) : Check := .candidate ⟨base.bytes ++ Name.ofString suffix⟩
  let beside (suffix : String) : Check :=
    .candidate (dir.join ⟨Name.ofString "_" ++ n ++ Name.ofString suffix⟩)
  [.guard dir,
    written ".scss", beside ".scss", written ".css", beside ".css", written ".sass", beside ".sass",
    .guard base,
    written "/index.scss", written "/_index.scss", written "/index.css", written "/_index.css",
    written "/index.sass", written "/_index.sass"]

variable {p dir : Path} {n : Name}

/-- The index files of a path that ends in a step: the names stand behind one more separator. -/
theorem candidates_index (hn : n.IsStep) :
    candidates ((p.join ⟨n⟩).join ⟨indexName⟩) = extensions.flatMap fun e =>
      [⟨(p.join ⟨n⟩).bytes ++ Path.separator :: (indexName ++ Name.dot :: e)⟩,
        ⟨(p.join ⟨n⟩).bytes ++ Path.separator :: partialMark :: (indexName ++ Name.dot :: e)⟩] := by
  have hsep := isStep_indexName.no_separator
  rw [candidates_join (fun m hm => p.parent?_join_join hn hm) hsep]
  refine List.flatMap_congr fun e he => ?_
  obtain ⟨hne, hesep, hdot⟩ := extensions_fit e he
  obtain ⟨hstep, -⟩ := Name.isStep_append_extension hsep hne hesep hdot
  rw [Path.appendExtension_join _ hsep hesep, p.join_join hn hstep,
    p.join_join hn hstep.partialMark_cons]

/-- The checks for a name are those written out. -/
theorem checks_probePlan (hdir : ∀ m : Name, m.IsStep → (p.join ⟨m⟩).parent? = some dir)
    (hn : n.IsStep) :
    (probePlan (p.join ⟨n⟩)).flatMap Stage.checks = writtenPlan (p.join ⟨n⟩) dir n := by
  have hparent := Path.parentOrSelf_eq (hdir n hn)
  have hsuffixes : Name.ofString "_" = [partialMark] ∧
      Name.ofString ".scss" = Name.dot :: Dialect.scssExtension ∧
      Name.ofString ".css" = Name.dot :: Dialect.cssExtension ∧
      Name.ofString ".sass" = Name.dot :: Dialect.sassExtension := by
    decide +kernel
  have hindexes :
      Name.ofString "/index.scss"
        = Path.separator :: (indexName ++ Name.dot :: Dialect.scssExtension) ∧
      Name.ofString "/_index.scss"
        = Path.separator :: partialMark :: (indexName ++ Name.dot :: Dialect.scssExtension) ∧
      Name.ofString "/index.css"
        = Path.separator :: (indexName ++ Name.dot :: Dialect.cssExtension) ∧
      Name.ofString "/_index.css"
        = Path.separator :: partialMark :: (indexName ++ Name.dot :: Dialect.cssExtension) ∧
      Name.ofString "/index.sass"
        = Path.separator :: (indexName ++ Name.dot :: Dialect.sassExtension) ∧
      Name.ofString "/_index.sass"
        = Path.separator :: partialMark :: (indexName ++ Name.dot :: Dialect.sassExtension) := by
    decide +kernel
  rw [probePlan, hparent, candidates_join hdir hn.no_separator, candidates_index hn]
  simp [extensions, Stage.checks, writtenPlan, hsuffixes, hindexes, Path.appendExtension]

/-- The paths of the plan are the directory, the base and names in both. -/
theorem map_components_probePlan
    (hdir : ∀ m : Name, m.IsStep → (p.join ⟨m⟩).parent? = some dir) (hn : n.IsStep) :
    (((probePlan (p.join ⟨n⟩)).flatMap Stage.checks).map fun c => c.path.components) =
      dir.components :: ((sheetNames n).map fun m => p.components ++ [.name m]) ++
        (p.join ⟨n⟩).components ::
          (sheetNames indexName).map fun m => (p.join ⟨n⟩).components ++ [.name m] := by
  have hparent := Path.parentOrSelf_eq (hdir n hn)
  rw [← map_components_candidates p hn.no_separator,
    ← map_components_candidates (p.join ⟨n⟩) isStep_indexName.no_separator]
  simp [probePlan, Stage.checks, hparent, Function.comp_def, Check.path]

/-- No two checks are of the same path. -/
theorem pairwise_probePlan (hdir : ∀ m : Name, m.IsStep → (p.join ⟨m⟩).parent? = some dir)
    (hcomponents : dir.components = p.components) (hn : n.IsStep) (hup : n ≠ Name.up) :
    (((probePlan (p.join ⟨n⟩)).flatMap Stage.checks).map Check.path).Pairwise
      fun q r => q.same r = false := by
  have hbelow : ∀ cs : List Component, Function.Injective fun m => cs ++ [Component.name m] := by
    intro cs m k h
    simpa using h
  have hnodup : (((probePlan (p.join ⟨n⟩)).flatMap Stage.checks).map
      fun c => c.path.components).Nodup := by
    rw [map_components_probePlan hdir hn, hcomponents, p.components_join hn,
      Component.step_of_ne hup]
    -- the directory, the names in it and the names below the base, of one more component each time;
    -- the base itself is in the directory, but its name is shorter than all that are tried
    refine List.nodup_cons.2 ⟨by simp, List.nodup_append.2 ⟨(nodup_sheetNames n).map (hbelow _),
      List.nodup_cons.2 ⟨by simp, (nodup_sheetNames indexName).map (hbelow _)⟩, ?_⟩⟩
    intro cs hcs ds hds heq
    subst heq
    obtain ⟨m, hm, rfl⟩ := List.mem_map.1 hcs
    rcases List.mem_cons.1 hds with heq | hds
    · obtain rfl := hbelow _ heq
      exact absurd (lt_length_of_mem_sheetNames hm) (lt_irrefl _)
    · obtain ⟨k, -, heq⟩ := List.mem_map.1 hds
      simpa using congrArg List.length heq
  rw [List.pairwise_map]
  refine (List.pairwise_map.1 hnodup).imp fun hne => ?_
  simpa [Path.same] using hne

/-- **The plan of a lookup.** For an import without an extension that ends in a name, whatever the
file system answers, the lookup follows the fourteen checks written out, and no path is checked
twice. The name is the last component of the path, and the partials lie in its directory. -/
theorem withoutExtension_plan (fs : FileSystem) {base : Path} {n : Name} (h : base.TextEndsIn n) :
    ∃ dir : Path, base.parent? = some dir ∧ base.components = dir.components ++ [.name n] ∧
      Follows fs (writtenPlan base dir n) (withoutExtension fs base) ∧
      ((writtenPlan base dir n).map Check.path).Pairwise (fun p q => p.same q = false) ∧
      (withoutExtension fs base).probes.Pairwise (fun p q => p.same q = false) := by
  obtain ⟨p, rfl⟩ := h.exists_join
  obtain ⟨dir, hcomponents, hdir⟩ := p.exists_parent?_join
  have hplan := checks_probePlan hdir h.isStep
  have hfollows :
      Follows fs (writtenPlan (p.join ⟨n⟩) dir n) (withoutExtension fs (p.join ⟨n⟩)) := by
    rw [← hplan]
    exact follows_runStages _
  have hpairwise := pairwise_probePlan hdir hcomponents h.isStep h.ne_up
  rw [hplan] at hpairwise
  refine ⟨dir, hdir n h.isStep, ?_, hfollows, hpairwise,
    hpairwise.sublist hfollows.probes_isPrefix.sublist⟩
  rw [p.components_join h.isStep, Component.step_of_ne h.ne_up, hcomponents]

/-- A directory that is reached by a detour and has a partial for its index. A check beside it
fails. -/
def detour : MemoryFs :=
  (MemoryFs.empty.addFile (.ofString "themes//../_base.v2/_index.css") "").addFailing
    (.ofString "themes/../_base.v2.scss")

theorem withoutExtension_plan_detour :
    let base := Path.ofString "themes//../_base.v2"
    let name := Name.ofString "_base.v2"
    let x := withoutExtension detour.toFileSystem base
    base.TextEndsIn name ∧
      (∃ dir : Path, base.parent? = some dir ∧ base.components = dir.components ++ [.name name] ∧
        Follows detour.toFileSystem (writtenPlan base dir name) x ∧
        ((writtenPlan base dir name).map Check.path).Pairwise (fun p q => p.same q = false) ∧
        x.probes.Pairwise (fun p q => p.same q = false)) ∧
      x.value = some (.ofString "themes//../_base.v2/_index.css") := by
  intro base name x
  have hbase : base.TextEndsIn name :=
    { isStep := ⟨by decide +kernel, by decide +kernel, by decide +kernel⟩
      ne_up := by decide +kernel
      text := ⟨(Path.ofString "themes//../").bytes, by decide +kernel, by decide +kernel⟩ }
  exact ⟨hbase, withoutExtension_plan detour.toFileSystem hbase, by decide +kernel⟩

end Lookup

end Stylesheet
