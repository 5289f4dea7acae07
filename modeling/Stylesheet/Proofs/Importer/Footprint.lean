import Stylesheet.Proofs.Dependency.Reachability
import Stylesheet.Proofs.Importer.SearchOrder

set_option autoImplicit false

/-! # What a lookup depends on

A lookup asks a file system nothing but whether the paths that it checks exist. So its trace
names everything that its result depends on: on two file systems that agree on the paths checked
in one of them, a lookup does the same and finds the same (`Traced.RestsOnProbes`,
`canonicalPath_footprint`). A check that fails counts as nothing being there, so it may as well
not fail.
-/

namespace Stylesheet

/-! ## Resting on probes -/

/-- What is done on a file system rests on its probes: on any file system that answers these
alike the same is done. -/
def Traced.RestsOnProbes {α : Type} (x : FileSystem → Traced α) : Prop :=
  ∀ fs fs' : FileSystem, (∀ p ∈ (x fs).probes, fs'.found p = fs.found p) → x fs' = x fs

namespace Traced

variable {α β : Type} {x : FileSystem → Traced α} {f : FileSystem → α → Traced β}

theorem restsOnProbes_const (y : Traced α) : RestsOnProbes fun _ => y := fun _ _ _ => rfl

theorem restsOnProbes_check (p : Path) : RestsOnProbes fun fs => fs.check p := by
  intro fs fs' h
  have hp : fs'.found p = fs.found p := h p (by simp)
  exact Traced.ext hp rfl

/-- What is done first is the same, so what follows starts from the same value. -/
theorem RestsOnProbes.bind (hx : RestsOnProbes x) (hf : ∀ a, RestsOnProbes fun fs => f fs a) :
    RestsOnProbes fun fs => x fs >>= f fs := by
  intro fs fs' h
  simp only [probes_bind, List.mem_append] at h
  have hfirst : x fs' = x fs := hx fs fs' fun p hp => h p (Or.inl hp)
  have hnext : f fs' (x fs).value = f fs (x fs).value :=
    hf (x fs).value fs fs' fun p hp => h p (Or.inr hp)
  refine Traced.ext ?_ ?_
  · rw [value_bind, value_bind, hfirst, hnext]
  · rw [events_bind, events_bind, hfirst, hnext]

end Traced

open Traced

/-! ## Lookups -/

namespace Lookup

theorem restsOnProbes_firstFound (ps : List Path) : RestsOnProbes fun fs => firstFound fs ps := by
  induction ps with
  | nil => exact restsOnProbes_const _
  | cons p ps ih =>
      refine (restsOnProbes_check p).bind fun found => ?_
      cases found with
      | true => exact restsOnProbes_const _
      | false => exact ih

theorem restsOnProbes_runStages (ss : List Stage) : RestsOnProbes fun fs => runStages fs ss := by
  induction ss with
  | nil => exact restsOnProbes_const _
  | cons s ss ih =>
      refine (restsOnProbes_check s.guard).bind fun guarded => ?_
      cases guarded with
      | false => exact restsOnProbes_const _
      | true =>
          refine (restsOnProbes_firstFound s.candidates).bind fun found => ?_
          cases found with
          | some p => exact restsOnProbes_const _
          | none => exact ih

theorem restsOnProbes_fromDirectory (dir importPath : Path) :
    RestsOnProbes fun fs => fromDirectory fs dir importPath := by
  unfold fromDirectory
  dsimp only
  cases (dir.join importPath).clean.extension? with
  | some e => exact restsOnProbes_firstFound _
  | none => exact restsOnProbes_runStages _

end Lookup

/-! ## Imports -/

namespace Importer

variable (i : Importer)

def on (fs : FileSystem) : Importer := { i with fs }

theorem restsOnProbes_searchIn (p : Path) (dirs : List Path) :
    RestsOnProbes fun fs => (i.on fs).searchIn p dirs := by
  induction dirs with
  | nil => exact restsOnProbes_const _
  | cons dir dirs ih =>
      refine (Lookup.restsOnProbes_fromDirectory dir p).bind fun found => ?_
      cases found with
      | some q => exact restsOnProbes_const _
      | none => exact ih

/-- A specifier is read, and what it means is redirected, without a file system. -/
theorem restsOnProbes_canonicalPath (specifier : String) (dir : Path) :
    RestsOnProbes fun fs => (i.on fs).canonicalPath specifier dir := by
  refine (restsOnProbes_const (i.specifierPath specifier dir)).bind fun target => ?_
  match target with
  | .error e => exact restsOnProbes_const _
  | .ok none => exact restsOnProbes_const _
  | .ok (some p) =>
      refine (restsOnProbes_const (i.config.redirected p)).bind fun q => ?_
      refine (Lookup.restsOnProbes_fromDirectory dir q).bind fun found => ?_
      cases found with
      | some r => exact restsOnProbes_const _
      | none =>
          dsimp only
          split
          · exact restsOnProbes_const _
          · exact (i.restsOnProbes_searchIn q i.config.searchRoots).bind fun _ =>
              restsOnProbes_const _

end Importer

/-- The file system in which nothing is where a check fails. -/
def FileSystem.withoutFailures (fs : FileSystem) : FileSystem :=
  { fs with probe := fun p => if fs.probe p = .found then .found else .absent }

theorem FileSystem.found_withoutFailures (fs : FileSystem) (p : Path) :
    fs.withoutFailures.found p = fs.found p := by
  unfold FileSystem.found FileSystem.withoutFailures
  by_cases h : fs.probe p = .found <;> simp [h]

/-- **The probes of an import are its footprint.** Whatever another file system is like, if it
agrees on what exists at the paths that were checked, the import does there exactly what it did
before: it asks and checks the same in the same order and has the same result. So it does not
matter what the checks of other paths say, and a check that failed might as well have found
nothing. -/
theorem Importer.canonicalPath_footprint (i : Importer) (specifier : String) (dir : Path) :
    let x := i.canonicalPath specifier dir
    (∀ fs' : FileSystem, (∀ p ∈ x.probes, fs'.found p = i.fs.found p) →
      (i.on fs').canonicalPath specifier dir = x) ∧
    (∀ probe' : Path → Probe, (∀ p ∈ x.probes, probe' p = i.fs.probe p) →
      (i.on { i.fs with probe := probe' }).canonicalPath specifier dir = x) ∧
    (i.on i.fs.withoutFailures).canonicalPath specifier dir = x := by
  intro x
  have hrests : ∀ fs' : FileSystem, (∀ p ∈ x.probes, fs'.found p = i.fs.found p) →
      (i.on fs').canonicalPath specifier dir = x :=
    fun fs' h => i.restsOnProbes_canonicalPath specifier dir i.fs fs' h
  refine ⟨hrests, fun probe' h => hrests _ fun p hp => ?_, hrests _ fun p _ => ?_⟩
  · show decide (probe' p = .found) = decide (i.fs.probe p = .found)
    rw [h p hp]
  · exact i.fs.found_withoutFailures p

/-- The circle with a partial beside the theme, and a check that fails. -/
def crowdedCircle : FileSystem :=
  ((Dependency.circle.addFile (.ofString "/app/_theme.scss") "").addFailing
    (.ofString "/app/gone.scss")).toFileSystem

theorem Importer.canonicalPath_footprint_circle :
    let i := Dependency.circleImporter
    let x := i.canonicalPath "theme" (.ofString "/app")
    (∀ p ∈ x.probes, crowdedCircle.found p = i.fs.found p) ∧
      (i.on crowdedCircle).canonicalPath "theme" (.ofString "/app") = x ∧
      (∀ p ∈ x.probes, crowdedCircle.probe p = i.fs.probe p) ∧
      (i.on { i.fs with probe := crowdedCircle.probe }).canonicalPath "theme" (.ofString "/app")
        = x := by
  intro i x
  have hfound : ∀ p ∈ x.probes, crowdedCircle.found p = i.fs.found p := by decide +kernel
  have hprobe : ∀ p ∈ x.probes, crowdedCircle.probe p = i.fs.probe p := by decide +kernel
  obtain ⟨hagree, hchanged, -⟩ := canonicalPath_footprint i "theme" (.ofString "/app")
  exact ⟨hfound, hagree crowdedCircle hfound, hprobe, hchanged crowdedCircle.probe hprobe⟩

end Stylesheet
