import Stylesheet.Project.Scan
import Stylesheet.Proofs.Path.Naming
import Stylesheet.Proofs.Path.Order

set_option autoImplicit false

/-! # The entries that are collected

The names on a disk are steps, so the entries of a project are tidy paths
(`tidy_of_mem_entries`). None of them is plain CSS, and they come in the order of paths, in which no
two of them are on a par (`pairwise_entries`, `eq_of_pathLe`).
-/

namespace Stylesheet.Project

open Disk

/-! ## The order of entries -/

theorem pathLe_trans (p q r : Path) (hpq : pathLe p q = true) (hqr : pathLe q r = true) :
    pathLe p r = true := Std.TransCmp.isLE_trans hpq hqr

theorem pathLe_total (p q : Path) : (pathLe p q || pathLe q p) = true := by
  unfold pathLe
  rw [Std.OrientedOrd.eq_swap (a := q) (b := p)]
  cases compare p q <;> rfl

/-- Tidy paths that come before each other are equal. -/
theorem eq_of_pathLe {p q : Path} (hp : p.Tidy) (hq : q.Tidy) (hpq : pathLe p q = true)
    (hqp : pathLe q p = true) : p = q := by
  refine hp.eq_of_compare hq ?_
  unfold pathLe at hpq hqp
  rw [Std.OrientedOrd.eq_swap (a := q) (b := p)] at hqp
  cases h : compare p q with
  | lt =>
      rw [h] at hqp
      cases hqp
  | eq => rfl
  | gt =>
      rw [h] at hpq
      cases hpq

theorem pairwise_entries {d : Disk} {root : Path} {filter : Option String} {es : List Path}
    (h : entries d root filter = .ok es) : es.Pairwise fun p q => pathLe p q = true := by
  unfold entries at h
  cases hwalk : walk d root with
  | error e =>
      rw [hwalk] at h
      cases h
  | ok visited =>
      rw [hwalk] at h
      cases h
      exact List.pairwise_mergeSort pathLe_trans pathLe_total _

/-! ## The names of what is visited -/

/-- All that a walk visits is named by steps. -/
theorem isStep_of_mem_walk {d : Disk} {root : Path} {visited : List (List Name)}
    (h : walk d root = .ok visited) : ∀ v ∈ visited, ∀ n ∈ v, n.IsStep := by
  unfold walk at h
  split at h
  · cases h
    simp
  · split at h
    · cases h
    · split at h
      · cases h
      · dsimp only at h
        split at h
        · cases h
        · cases h
          intro v hv
          obtain ⟨place, -, rfl⟩ := List.mem_map.1 hv
          exact fun n hn => Place.isStep_of_mem_names hn
      · cases h
        simp

theorem pathBelow_spell {place names : List Name} (hplace : ∀ n ∈ place, n.IsStep)
    (hnames : ∀ n ∈ names, n.IsStep) :
    pathBelow (Anchor.root.spell place) names = Anchor.root.spell (place ++ names) := by
  unfold pathBelow
  induction names generalizing place with
  | nil => rw [List.append_nil, List.foldl_nil]
  | cons n names ih =>
      have hn := hnames n (by simp)
      have hmore : ∀ m ∈ place ++ [n], m.IsStep := Path.steps_concat hplace hn
      rw [List.foldl_cons, Path.join_spell hplace hn, ih hmore fun m hm => hnames m (by simp [hm]),
        List.append_assoc, List.singleton_append]

/-- The root of a project is the path of a place, unless nothing is there. -/
theorem settle_root (d : Disk) (o : Options) :
    (∃ place : Place, (o.settle d).root = Anchor.root.spell place.names) ∨
      ∃ why, d.locate (o.settle d).root = .error why := by
  unfold Options.settle
  cases hroot : o.root with
  | none => exact Or.inl ⟨d.workingDirectory, rfl⟩
  | some r =>
      cases hlocate : d.locate r with
      | ok place =>
          refine Or.inl ⟨place, ?_⟩
          simp only [canonical?, hlocate]
          rfl
      | error why =>
          refine Or.inr ⟨why, ?_⟩
          simp only [canonical?, hlocate]
          exact hlocate

/-- **Collected entries are tidy paths, and none is plain CSS.** -/
theorem tidy_of_mem_entries {d : Disk} {o : Options} {es : List Path}
    (h : entries d (o.settle d).root (o.settle d).entryFilter = .ok es) :
    ∀ e ∈ es, e.Tidy ∧ Dialect.ofPath e ≠ .css := by
  unfold entries at h
  cases hwalk : walk d (o.settle d).root with
  | error e =>
      rw [hwalk] at h
      cases h
  | ok visited =>
      rw [hwalk] at h
      cases h
      intro e he
      obtain ⟨hmem, -, hentry⟩ := mem_entriesAmong.1 he
      constructor
      · obtain ⟨v, hv, rfl⟩ := List.mem_map.1 hmem
        have hsteps := isStep_of_mem_walk hwalk v hv
        rcases settle_root d o with ⟨place, hroot⟩ | ⟨why, hwhy⟩
        · have hplace : ∀ n ∈ place.names, n.IsStep := fun n => Place.isStep_of_mem_names
          rw [hroot, pathBelow_spell hplace hsteps]
          exact Path.tidy_spell (List.forall_mem_append.2 ⟨hplace, hsteps⟩)
        · -- nothing is visited where nothing is
          unfold walk at hwalk
          split at hwalk
          · cases hwalk
            cases hv
          · rw [hwhy] at hwalk
            cases hwalk
      · simp only [isEntryPath, isCompiled, Bool.and_eq_true, Bool.or_eq_true,
          decide_eq_true_eq] at hentry
        unfold Dialect.ofPath
        rcases hentry.1.1.2 with hext | hext
        · rw [hext]
          decide +kernel
        · rw [hext]
          decide +kernel

end Stylesheet.Project
