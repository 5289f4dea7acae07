import Stylesheet.Proofs.Lookup.Plan

set_option autoImplicit false

/-! # Lookups with an extension

An import whose path has an extension is looked up in two places: the path and the partial beside
it. The lookup cuts the extension off first and writes it again for each place. That gives the name
back unless its stem is a single dot: `..css` without its extension is `..`, which is no name and
loses no dot, so the extension is written after both (`rewritten`). Then the lookup asks for two
other names, and never for the one imported (`fromDirectory_extension_iff`).
-/

namespace Stylesheet

namespace Lookup

/-- The name that the lookup makes of a name with the extension `e`, by cutting the extension off
and writing it again. -/
def rewritten (n e : Name) : Name :=
  if n = Name.dot :: Name.dot :: e then Name.dot :: n else n

/-- The two places for the name `n` in a directory. -/
def siblings (dir : Path) (n : Name) : List Check :=
  [.candidate (dir.join ⟨n⟩), .candidate (dir.join ⟨partialMark :: n⟩)]

variable {n e : Name}

theorem rewritten_eq_self_iff : rewritten n e = n ↔ n ≠ Name.dot :: Name.dot :: e := by
  unfold rewritten
  split
  · next h => simp [h]
  · next h => simp [h]

/-- A name is rewritten to its stem, or two dots for a stem of one, with the extension after it. -/
theorem rewritten_eq {stem : Name} (h : n = stem ++ Name.dot :: e) :
    (if stem = Name.here then Name.up else stem) ++ Name.dot :: e = rewritten n e := by
  unfold rewritten
  by_cases hstem : stem = Name.here
  · subst hstem
    have hdots : n = Name.dot :: Name.dot :: e := h
    rw [if_pos rfl, if_pos hdots, hdots]
    rfl
  · have hne : n ≠ Name.dot :: Name.dot :: e := by
      rintro rfl
      have hcut : Name.here ++ Name.dot :: e = stem ++ Name.dot :: e := h
      exact hstem (List.append_cancel_right hcut).symm
    rw [if_neg hstem, if_neg hne, h]

/-- A lookup with an extension follows the places of the name rewritten. -/
theorem follows_siblings (fs : FileSystem) {q : Path} (hq : q.Tidy) (he : q.extension? = some e) :
    ∃ (dir : Path) (n : Name), q.parent? = some dir ∧ q.fileName? = some n ∧ q = dir.join ⟨n⟩ ∧
      Path.separator ∉ n ∧ Path.separator ∉ rewritten n e ∧
      Follows fs (siblings dir (rewritten n e)) (withExtension fs q.withoutExtension e) := by
  obtain ⟨n, stem, ⟨hn, hup, a, ns, hns, rfl⟩, hsplit⟩ := hq.endsIn_of_extension? he
  have hname := rewritten_eq (Name.eq_of_splitExtension hsplit).1
  obtain ⟨hstep, hne⟩ := Path.isStep_stem_append hn hsplit
  have hplain := Path.appendExtension_withoutExtension_spell (a := a) hns hn hup hsplit
  have hpartial := Path.asPartial?_spell (a := a) hns hstep hne
  rw [hname] at hplain hpartial hstep
  refine ⟨a.spell ns, n, Path.parent?_spell hns hn, Path.fileName?_spell hns hn hup,
    (Path.join_spell hns hn).symm, hn.no_separator, hstep.no_separator, ?_⟩
  rw [withExtension, hplain, hpartial, siblings, Path.join_spell hns hstep,
    Path.join_spell hns hstep.partialMark_cons]
  exact follows_firstFound [a.spell (ns ++ [rewritten n e]),
    a.spell (ns ++ [partialMark :: rewritten n e])]

/-- **An extension is authoritative.** Let an import from `dir` mean the path `q`, which has the
extension `e`. Whatever the file system answers, the lookup follows two checks, of a name in the
directory of `q` and of the partial under that name. These are checks of `q` and of its partial
unless the name of `q` is the extension with two dots in front of it. -/
theorem fromDirectory_extension_iff (fs : FileSystem) (dir importPath : Path) {e : Name}
    (he : (dir.join importPath).clean.extension? = some e) :
    let q := (dir.join importPath).clean
    ∃ (d : Path) (n : Name), q.parent? = some d ∧ q.fileName? = some n ∧ q = d.join ⟨n⟩ ∧
      Follows fs (siblings d (rewritten n e)) (fromDirectory fs dir importPath) ∧
      (Follows fs (siblings d n) (fromDirectory fs dir importPath) ↔
        n ≠ Name.dot :: Name.dot :: e) := by
  intro q
  have hlookup : fromDirectory fs dir importPath = withExtension fs q.withoutExtension e := by
    rw [fromDirectory]
    simp only [he, q]
  obtain ⟨d, n, hparent, hname, hq, hn, hrewritten, hfollows⟩ :=
    follows_siblings fs (Path.clean_tidy _) he
  rw [← hlookup] at hfollows
  refine ⟨d, n, hparent, hname, hq, hfollows, ?_⟩
  rw [← rewritten_eq_self_iff]
  constructor
  · -- a first check is made in any case, and it is of one name only
    intro hself
    have hfirst : d.join ⟨rewritten n e⟩ = d.join ⟨n⟩ :=
      Option.some.inj (hfollows.head?_probes.symm.trans hself.head?_probes)
    exact Path.join_right_injective hrewritten hn hfirst
  · intro heq
    rwa [heq] at hfollows

/-- A name with several dots, one of them at its end, is found as a partial. -/
theorem fromDirectory_extension_trailing :
    let fs := (MemoryFs.empty.addFile (.ofString "/app/_..theme.v2.") "").toFileSystem
    let dir := Path.ofString "/app/pages"
    let importPath := Path.ofString ".././..theme.v2."
    let q := (dir.join importPath).clean
    q.extension? = some [] ∧
      (∃ (d : Path) (n : Name), q.parent? = some d ∧ q.fileName? = some n ∧ q = d.join ⟨n⟩ ∧
        Follows fs (siblings d (rewritten n [])) (fromDirectory fs dir importPath) ∧
        (Follows fs (siblings d n) (fromDirectory fs dir importPath) ↔
          n ≠ Name.dot :: Name.dot :: [])) ∧
      (fromDirectory fs dir importPath).value = some (.ofString "/app/_..theme.v2.") := by
  intro fs dir importPath q
  have he : q.extension? = some [] := by decide +kernel
  exact ⟨he, fromDirectory_extension_iff fs dir importPath he, by decide +kernel⟩

/-- A stylesheet that is there and has an extension is not found: neither of the two checks is of
its path or of its partial. -/
theorem fromDirectory_extension_dots :
    let fs := (MemoryFs.empty.addFile (.ofString "/app/..css") "").toFileSystem
    let dir := Path.ofString "/app"
    let q := Path.ofString "/app/..css"
    let x := fromDirectory fs dir (.ofString "..css")
    (dir.join (.ofString "..css")).clean = q ∧ q.extension? = some Dialect.cssExtension ∧
      fs.found q = true ∧ ¬ Follows fs [.candidate q, .candidate (.ofString "/app/_..css")] x ∧
      x.value = none ∧
      x.probes = [.ofString "/app/...css", .ofString "/app/_...css"] := by
  intro fs dir q x
  have hprobes : x.probes = [.ofString "/app/...css", .ofString "/app/_...css"] := by
    decide +kernel
  refine ⟨by decide +kernel, by decide +kernel, by decide +kernel, fun h => ?_, by decide +kernel,
    hprobes⟩
  have hfirst := h.head?_probes
  rw [hprobes] at hfirst
  revert hfirst
  decide +kernel

end Lookup

end Stylesheet
