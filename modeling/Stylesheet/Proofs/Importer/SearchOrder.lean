import Stylesheet.Proofs.Importer.Meaning
import Stylesheet.Proofs.Lookup.Plan

set_option autoImplicit false

/-! # The order of a search

A path is searched in the importing directory and then in the search roots, in order, and the
first match ends the search (`value_searchIn_eq`, `probes_searchIn`). An absolute path is the same
from everywhere, so looking it up once finds what looking it up from every root would find. What
comes before the search, the lookup of a package and the redirect hook, checks no path
(`canonicalPath_order`).
-/

namespace Stylesheet

/-! ## Lookups only check paths -/

namespace Traced

variable {α β : Type}

/-- Nothing happens but checks of paths. -/
def OnlyProbes (x : Traced α) : Prop := x.events = x.probes.map .probed

theorem onlyProbes_pure (a : α) : (pure a : Traced α).OnlyProbes := rfl

theorem OnlyProbes.bind {x : Traced α} {f : α → Traced β} (hx : x.OnlyProbes)
    (hf : (f x.value).OnlyProbes) : (x >>= f).OnlyProbes := by
  calc (x >>= f).events
      = x.events ++ (f x.value).events := events_bind x f
    _ = x.probes.map .probed ++ (f x.value).probes.map .probed := by rw [← hx, ← hf]
    _ = (x >>= f).probes.map .probed := by rw [probes_bind, List.map_append]

theorem OnlyProbes.lookups {x : Traced α} (h : x.OnlyProbes) : x.lookups = [] := by
  rw [Traced.lookups, h, List.filterMap_map]
  exact List.filterMap_eq_nil_iff.2 fun _ _ => rfl

end Traced

namespace Lookup

variable (fs : FileSystem)

/-- What follows a plan checks the paths of the plan and nothing else. -/
theorem Follows.onlyProbes {fs : FileSystem} {plan : List Check} {x : Traced (Option Path)}
    (h : Follows fs plan x) : x.OnlyProbes := by
  have hchecks : ∀ (answer : Option Path) (cs : List Check),
      Traced.OnlyProbes ⟨answer, cs.map Check.event⟩ := by
    intro answer cs
    rw [Traced.OnlyProbes, probes_map_event, List.map_map]
    rfl
  rcases h with ⟨before, c, after, -, -, -, rfl⟩ | ⟨-, rfl⟩
  · exact hchecks _ _
  · exact hchecks _ _

theorem onlyProbes_fromDirectory (dir p : Path) : (fromDirectory fs dir p).OnlyProbes := by
  obtain ⟨plan, hplan⟩ := exists_follows_fromDirectory fs dir p
  exact hplan.onlyProbes

/-- An absolute path is looked up alike from everywhere. -/
theorem fromDirectory_absolute {p : Path} (h : p.isAbsolute = true) (dir dir' : Path) :
    fromDirectory fs dir p = fromDirectory fs dir' p := by
  rw [fromDirectory, fromDirectory, Path.join_absolute h, Path.join_absolute h]

/-- The directories that a search for `p` looks into: those without a match, and the first with
one. -/
def searched (p : Path) (dirs : List Path) : List Path :=
  dirs.takeWhile (fun d => (fromDirectory fs d p).value.isNone)
    ++ (dirs.find? fun d => (fromDirectory fs d p).value.isSome).toList

theorem searched_cons (p d : Path) (dirs : List Path) :
    searched fs p (d :: dirs) =
      d :: if (fromDirectory fs d p).value.isSome then [] else searched fs p dirs := by
  unfold searched
  cases h : (fromDirectory fs d p).value with
  | none => simp [h]
  | some found => simp [h]

end Lookup

namespace Importer

variable (i : Importer)

/-! ## Searching directories -/

/-- The first match of a path is found. -/
theorem value_searchIn_eq (p : Path) (dirs : List Path) :
    (i.searchIn p dirs).value = dirs.findSome? fun d => (Lookup.fromDirectory i.fs d p).value := by
  induction dirs with
  | nil => rfl
  | cons d dirs ih =>
      rw [searchIn, Traced.value_bind, List.findSome?_cons]
      cases (Lookup.fromDirectory i.fs d p).value with
      | some found => rfl
      | none => exact ih

/-- Directories are looked into up to the first match. -/
theorem probes_searchIn (p : Path) (dirs : List Path) :
    (i.searchIn p dirs).probes =
      (Lookup.searched i.fs p dirs).flatMap fun d => (Lookup.fromDirectory i.fs d p).probes := by
  induction dirs with
  | nil => rfl
  | cons d dirs ih =>
      rw [searchIn, Traced.probes_bind, Lookup.searched_cons, List.flatMap_cons]
      congr 1
      cases (Lookup.fromDirectory i.fs d p).value with
      | some found => rfl
      | none => exact ih

theorem onlyProbes_searchIn (p : Path) (dirs : List Path) : (i.searchIn p dirs).OnlyProbes := by
  induction dirs with
  | nil => exact Traced.onlyProbes_pure _
  | cons d dirs ih =>
      refine (Lookup.onlyProbes_fromDirectory i.fs d p).bind ?_
      split
      · exact Traced.onlyProbes_pure _
      · exact ih

/-- Whether or not the search roots are left out, the first match of an absolute path is the
same. -/
theorem findSome?_absolute {p : Path} (h : p.isAbsolute = true) (dir : Path) (roots : List Path) :
    ((dir :: roots).findSome? fun d => (Lookup.fromDirectory i.fs d p).value)
      = (Lookup.fromDirectory i.fs dir p).value := by
  induction roots with
  | nil => cases hv : (Lookup.fromDirectory i.fs dir p).value <;> simp [hv]
  | cons root roots ih =>
      have hroot : (Lookup.fromDirectory i.fs root p).value
          = (Lookup.fromDirectory i.fs dir p).value := by
        rw [Lookup.fromDirectory_absolute i.fs h root dir]
      rw [List.findSome?_cons] at ih ⊢
      cases hv : (Lookup.fromDirectory i.fs dir p).value with
      | some found => rfl
      | none =>
          rw [hv] at ih hroot
          simpa [List.findSome?_cons, hroot] using ih

/-! ## From the specifier to the search -/

def searchDirs (dir p : Path) : List Path :=
  dir :: if p.isAbsolute then [] else i.config.searchRoots

/-- A specifier is read, what it means is redirected, and then the search begins. -/
theorem canonicalPath_eq (specifier : String) (dir : Path) :
    i.canonicalPath specifier dir = (do
      match ← i.specifierPath specifier dir with
      | .error e => return .error e
      | .ok none => return .ok none
      | .ok (some p) =>
        let p ← i.config.redirected p
        return .ok (← i.searchIn p (i.searchDirs dir p))) := by
  unfold canonicalPath
  congr 1
  funext answer
  match answer with
  | .error e => rfl
  | .ok none => rfl
  | .ok (some p) =>
      show (i.config.redirected p >>= _) = (i.config.redirected p >>= _)
      congr 1
      funext p
      rw [searchDirs, searchIn, bind_assoc]
      congr 1
      funext found
      cases found with
      | some q => rfl
      | none =>
          cases p.isAbsolute with
          | true => rfl
          | false => rfl

variable {specifier : String} {dir p : Path} {m : Meaning}

@[simp] theorem lookups_redirected (c : Config) (p : Path) : (c.redirected p).lookups = [] := by
  unfold Config.redirected
  split <;> rfl

@[simp] theorem probes_redirected (c : Config) (p : Path) : (c.redirected p).probes = [] := by
  unfold Config.redirected
  split <;> rfl

/-- Where the package fails there is no search. -/
theorem canonicalPath_of_error {e : Failure} (h : Means specifier dir m)
    (ht : m.target i.config.packages = .error e) :
    i.canonicalPath specifier dir = m.reading i.config.packages >>= fun _ => return .error e := by
  rw [canonicalPath_eq, i.specifierPath_of_means h]
  refine Traced.ext ?_ ?_
  · simp [ht]
  · simp [ht]

/-- Where nothing is meant nothing happens. -/
theorem canonicalPath_of_nothing (h : Means specifier dir .nothing) :
    i.canonicalPath specifier dir = return .ok none := by
  rw [canonicalPath_eq, i.specifierPath_of_means h]
  rfl

/-- A path that is meant is redirected and searched. -/
theorem canonicalPath_of_path (h : Means specifier dir m)
    (ht : m.target i.config.packages = .ok (some p)) :
    i.canonicalPath specifier dir = (do
      let _ ← m.reading i.config.packages
      let q ← i.config.redirected p
      return .ok (← i.searchIn q (i.searchDirs dir q))) := by
  rw [canonicalPath_eq, i.specifierPath_of_means h]
  refine Traced.ext ?_ ?_
  · simp [ht]
  · simp [ht]

/-- No package is looked up but the one that is meant. -/
theorem lookups_canonicalPath (h : Means specifier dir m) :
    (i.canonicalPath specifier dir).lookups = m.lookups := by
  cases ht : m.target i.config.packages with
  | error e =>
      rw [i.canonicalPath_of_error h ht]
      simp
  | ok target =>
      cases target with
      | none =>
          obtain rfl := (m.target_eq_ok_none_iff _).1 ht
          rw [i.canonicalPath_of_nothing h]
          simp [Meaning.lookups]
      | some p =>
          have hsearch := fun q dirs => (i.onlyProbes_searchIn q dirs).lookups
          rw [i.canonicalPath_of_path h ht]
          simp [hsearch]

/-- Searching fails where the package does, and with the same failure. -/
theorem canonicalPath_eq_error_iff (h : Means specifier dir m) {e : Failure} :
    (i.canonicalPath specifier dir).value = .error e ↔ m.target i.config.packages = .error e := by
  cases ht : m.target i.config.packages with
  | error e' =>
      rw [i.canonicalPath_of_error h ht]
      simp
  | ok target =>
      cases target with
      | none =>
          obtain rfl := (m.target_eq_ok_none_iff _).1 ht
          rw [i.canonicalPath_of_nothing h]
          simp
      | some p =>
          rw [i.canonicalPath_of_path h ht]
          simp

/-- What is found of an absolute path from one directory is what is found of it from all. -/
theorem value_searchDirs (dir p : Path) :
    (i.searchIn p (i.searchDirs dir p)).value =
      (dir :: i.config.searchRoots).findSome? fun d => (Lookup.fromDirectory i.fs d p).value := by
  rw [value_searchIn_eq, searchDirs]
  cases habs : p.isAbsolute with
  | false => rfl
  | true =>
      rw [if_pos rfl, i.findSome?_absolute habs, i.findSome?_absolute habs]

/-- **The order of a search.** A specifier means one thing. At most the package that it means is
looked up, and the search fails if and only if that fails. A path that is meant is redirected; what
is found is the first match of it in the importing directory and then the search roots, and the
directories are looked into in this order and up to the first match. -/
theorem canonicalPath_order (i : Importer) (specifier : String) (dir : Path) :
    let x := i.canonicalPath specifier dir
    ∃ m, (∀ m', Means specifier dir m' ↔ m' = m) ∧
      x.lookups = m.lookups ∧ x.lookups.length ≤ 1 ∧
      (∀ e, x.value = .error e ↔ ∃ package seenFrom,
        x.lookups = [(package, seenFrom)] ∧ i.config.packages package seenFrom = .error e) ∧
      match m.target i.config.packages with
      | .error _ => x.probes = []
      | .ok none => x.value = .ok none ∧ x.events = []
      | .ok (some p) =>
        let q := (i.config.redirected p).value
        let dirs := dir :: i.config.searchRoots
        x.value = .ok (dirs.findSome? fun d => (Lookup.fromDirectory i.fs d q).value) ∧
          (q.isAbsolute = false → x.probes =
            (Lookup.searched i.fs q dirs).flatMap fun d => (Lookup.fromDirectory i.fs d q).probes) := by
  intro x
  obtain ⟨m, hm⟩ := exists_means specifier dir
  have hlookups : x.lookups = m.lookups := i.lookups_canonicalPath hm
  refine ⟨m, fun m' => ⟨fun h => hm.unique h, fun h => h ▸ hm⟩, hlookups, ?_, ?_, ?_⟩
  · rw [hlookups]
    exact m.length_lookups_le_one
  · intro e
    rw [hlookups, ← m.target_eq_error_iff]
    exact i.canonicalPath_eq_error_iff hm
  · cases ht : m.target i.config.packages with
    | error e =>
        have hx : x = _ := i.canonicalPath_of_error hm ht
        simp [hx]
    | ok target =>
        cases target with
        | none =>
            obtain rfl := (m.target_eq_ok_none_iff _).1 ht
            have hx : x = _ := i.canonicalPath_of_nothing hm
            simp [hx]
        | some p =>
            have hx : x = _ := i.canonicalPath_of_path hm ht
            constructor
            · simp [hx, value_searchDirs]
            · intro hrel
              -- only an absolute path would be looked up from one directory alone
              have hdirs : i.searchDirs dir (i.config.redirected p).value
                  = dir :: i.config.searchRoots := by
                rw [searchDirs, hrel]
                rfl
              simp [hx, hdirs, probes_searchIn]

end Importer

end Stylesheet
