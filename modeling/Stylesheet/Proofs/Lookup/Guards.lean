import Stylesheet.Proofs.FileSystem.Additions
import Stylesheet.Proofs.Lookup.Plan

set_option autoImplicit false

/-! # Guards save checks only

The guards of a lookup lie above its candidates. In a file system built by additions a candidate
that exists brings all directories above it with it, so the guards of that candidate exist, unless
their own checks fail. The lookup then finds what it would find without guards
(`withoutExtension_unguarded`).
-/

namespace Stylesheet

namespace Lookup

variable {fs : FileSystem}

/-- Where a candidate of the stage `t` exists, the guard of the stage `s` exists. -/
def Stage.Bears (fs : FileSystem) (s t : Stage) : Prop :=
  ∀ q ∈ t.candidates, fs.found q = true → fs.found s.guard = true

/-- **Guards that bear all that comes after them can be left out.** -/
theorem find?_stagePlaces {ss : List Stage} (hown : ∀ s ∈ ss, s.Bears fs s)
    (hlater : ss.Pairwise (Stage.Bears fs)) :
    (stagePlaces fs ss).find? fs.found = (ss.flatMap Stage.candidates).find? fs.found := by
  induction ss with
  | nil => rfl
  | cons s rest ih =>
      obtain ⟨hs, hrest⟩ := List.pairwise_cons.1 hlater
      have hnext := ih (fun t ht => hown t (List.mem_cons_of_mem s ht)) hrest
      rw [stagePlaces]
      cases hguard : fs.found s.guard with
      | true => simp only [if_true, List.flatMap_cons, List.find?_append, hnext]
      | false =>
          -- the missing guard would exist with any of the candidates
          have hnone : ∀ q ∈ (s :: rest).flatMap Stage.candidates, fs.found q = false := by
            intro q hq
            obtain ⟨t, ht, hqt⟩ := List.mem_flatMap.1 hq
            have hbears : s.Bears fs t := by
              rcases List.mem_cons.1 ht with rfl | ht
              · exact hown t List.mem_cons_self
              · exact hs t ht
            by_contra hfound
            rw [hbears q hqt (by simpa using hfound)] at hguard
            cases hguard
          rw [if_neg Bool.false_ne_true, List.find?_nil, eq_comm, List.find?_eq_none]
          simpa using hnone

/-! ## Guards lie above candidates -/

/-- A path that means no more than `cs` lies above a name in `cs`. -/
theorem isAbove_of_isPrefix {g q : Path} {cs : List Component} {m : Name}
    (hq : q.components = cs ++ [.name m]) (hg : g.components <+: cs)
    (hroot : cs.head? = some .root → g.components ≠ []) : g.IsAbove q := by
  refine ⟨hq ▸ hg.trans (List.prefix_append _ _), fun heq => ?_, fun habs => hroot ?_⟩
  · have hle := hg.length_le
    rw [heq, hq, List.length_append, List.length_singleton] at hle
    omega
  · rw [Path.isAbsolute_eq_head?, hq] at habs
    cases cs with
    | nil => simp at habs
    | cons c cs => simpa using habs

/-- The candidates for a name read from `d` are names in `d`. -/
theorem exists_components_of_mem_candidates {d q : Path} {n : Name} (hn : Path.separator ∉ n)
    (h : q ∈ candidates (d.join ⟨n⟩)) : ∃ m, q.components = d.components ++ [.name m] := by
  have hq := List.mem_map_of_mem (f := Path.components) h
  rw [map_components_candidates d hn] at hq
  obtain ⟨m, -, hm⟩ := List.mem_map.1 hq
  exact ⟨m, hm.symm⟩

theorem length_candidates {d : Path} {n : Name} (hn : Path.separator ∉ n) :
    (candidates (d.join ⟨n⟩)).length = 6 := by
  have hlength := congrArg List.length (map_components_candidates d hn)
  rw [List.length_map, List.length_map] at hlength
  exact hlength

/-- The directory of a path lies above the candidates for it. -/
theorem parentOrSelf_isAbove_candidate {base q : Path} (h : q ∈ candidates base) :
    base.parentOrSelf.IsAbove q := by
  obtain ⟨d, n, hn, rfl⟩ := base.exists_eq_join
  obtain ⟨m, hq⟩ := exists_components_of_mem_candidates hn h
  refine isAbove_of_isPrefix hq (d.parentOrSelf_join_isPrefix hn) fun hroot => ?_
  -- whatever follows the last separator, the path starts as the text before it does
  refine Path.parentOrSelf_ne_nil ?_
  rcases d.exists_components_join hn with hsame | ⟨c, -, hmore⟩
  · rw [hsame, hroot]
  · rw [hmore, List.head?_append, hroot, Option.some_or]

/-- A path and its directory lie above the index files of the path. -/
theorem isAbove_index {base q : Path} (h : q ∈ candidates (base.join ⟨indexName⟩)) :
    base.IsAbove q ∧ base.parentOrSelf.IsAbove q := by
  obtain ⟨m, hq⟩ := exists_components_of_mem_candidates isStep_indexName.no_separator h
  constructor
  · refine isAbove_of_isPrefix hq List.prefix_rfl fun hroot hnil => ?_
    rw [hnil] at hroot
    cases hroot
  · exact isAbove_of_isPrefix hq base.parentOrSelf_isPrefix Path.parentOrSelf_ne_nil

/-! ## Lookups without guards -/

/-- What exists brings the directories above it with it, save those whose checks fail. -/
theorem found_of_isAbove {m : MemoryFs} (hm : m.AncestorsExist) {g q : Path}
    (hg : m.isFailing g = false) (habove : g.IsAbove q) (hq : m.toFileSystem.found q = true) :
    m.toFileSystem.found g = true := by
  rw [MemoryFs.found_iff] at hq ⊢
  exact ⟨hg, .inr (hm.isDirectory_of_isAbove hq.2 habove)⟩

/-- **Guards save checks only.** In a file system built by additions, whose guards are not made to
fail, a lookup finds the first of the twelve candidates that exists, as if nothing but these were
checked. The directories above whatever exists in such a file system exist. -/
theorem withoutExtension_unguarded (additions : List MemoryFs.Addition) {base : Path}
    (hguards : ∀ s ∈ probePlan base, ∀ p, .failing p ∈ additions → p.same s.guard = false) :
    let m := MemoryFs.ofAdditions additions
    let all := (probePlan base).flatMap Stage.candidates
    (withoutExtension m.toFileSystem base).value = all.find? m.toFileSystem.found ∧
      all.length = 12 ∧ m.AncestorsExist := by
  intro m all
  have hm : m.AncestorsExist := MemoryFs.ancestorsExist_ofAdditions additions
  have hpasses : ∀ s ∈ probePlan base, m.isFailing s.guard = false := by
    intro s hs
    by_contra hfailing
    obtain ⟨p, hp, hsame⟩ := (MemoryFs.isFailing_ofAdditions additions s.guard).1 (by
      simpa using hfailing)
    rw [hguards s hs p hp] at hsame
    cases hsame
  have hparent : m.isFailing base.parentOrSelf = false :=
    hpasses ⟨base.parentOrSelf, candidates base⟩ (by simp [probePlan])
  have hbase : m.isFailing base = false :=
    hpasses ⟨base, candidates (base.join ⟨indexName⟩)⟩ (by simp [probePlan])
  -- each guard lies above its candidates and those of the later stage, and so exists with them
  refine ⟨?_, ?_, hm⟩
  · rw [withoutExtension, value_runStages]
    refine find?_stagePlaces (fun s hs q hq => ?_) ?_
    · rcases List.mem_pair.1 hs with rfl | rfl
      · exact found_of_isAbove hm hparent (parentOrSelf_isAbove_candidate hq)
      · exact found_of_isAbove hm hbase (isAbove_index hq).1
    · refine List.pairwise_pair.2 fun q hq => ?_
      exact found_of_isAbove hm hparent (isAbove_index hq).2
  · obtain ⟨d, n, hn, hd⟩ := base.exists_eq_join
    have hfirst : (candidates base).length = 6 := hd ▸ length_candidates hn
    have hindex : (candidates (base.join ⟨indexName⟩)).length = 6 :=
      length_candidates isStep_indexName.no_separator
    simp [all, probePlan, hfirst, hindex]

/-- A check of the plain index file fails. The directory is spelled with noise in it. -/
theorem withoutExtension_unguarded_trailing :
    let additions : List MemoryFs.Addition :=
      [.file (.ofString "lib/themes/index.scss") "", .directory (.ofString "./lib"),
        .failing (.ofString "lib/themes/index.scss"),
        .file (.ofString "lib//themes/./_index.css") ""]
    let base := Path.ofString "lib/./themes//"
    let m := MemoryFs.ofAdditions additions
    let all := (probePlan base).flatMap Stage.candidates
    (∀ s ∈ probePlan base, ∀ p, .failing p ∈ additions → p.same s.guard = false) ∧
      ((withoutExtension m.toFileSystem base).value = all.find? m.toFileSystem.found ∧
        all.length = 12 ∧ m.AncestorsExist) ∧
      (withoutExtension m.toFileSystem base).value =
        some (.ofString "lib/./themes/_index.css") := by
  intro additions base m all
  have hguards : ∀ s ∈ probePlan base, ∀ p, .failing p ∈ additions → p.same s.guard = false := by
    intro s hs p hp
    obtain rfl : p = .ofString "lib/themes/index.scss" := by simpa [additions] using hp
    rcases List.mem_pair.1 hs with rfl | rfl
    · decide +kernel
    · decide +kernel
  exact ⟨hguards, withoutExtension_unguarded additions hguards, by decide +kernel⟩

end Lookup

end Stylesheet
