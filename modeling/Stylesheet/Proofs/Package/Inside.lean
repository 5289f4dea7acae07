import Stylesheet.Proofs.Package.Nearest

set_option autoImplicit false

/-! # Paths inside a package

What is meant in a package is read from its root like any path from a directory, so an absolute
path stays what it is. Such a path comes up where two slashes stand behind the name of the package,
and where a manifest names one, or names one behind a `./` (`resolver_outside_ui`). All other paths
lie inside the package (`resolver_inside_iff`).
-/

namespace Stylesheet.Package

/-- A text leads out of a directory exactly if it is an absolute path to somewhere else. -/
theorem isPrefix_innerPath_iff {root : Path} {text? : Option String} :
    root.components <+: (innerPath root text?).components ↔
      ∀ text, text? = some text → (Path.ofString text).isAbsolute = true →
        root.components <+: (Path.ofString text).components := by
  cases text? with
  | none => simp [innerPath]
  | some text =>
      simp only [innerPath, Option.some.injEq, forall_eq']
      cases habs : (Path.ofString text).isAbsolute with
      | true => simp [Path.join_absolute habs]
      | false => simpa using root.components_isPrefix_join habs

/-- A package has one text to read. -/
theorem InnerText.unique {disk : Disk} {root : Path} {subpath text? text?' : Option String}
    (h : InnerText disk root subpath text?) (h' : InnerText disk root subpath text?') :
    text?' = text? := by
  cases subpath with
  | some rest =>
      cases h
      cases h'
      rfl
  | none => exact (innerText_none_iff.1 h').symm.trans (innerText_none_iff.1 h)

variable {disk : Disk} {names : List String} {specifier : String} {dir d : Path} {n : String}
  {s : Specifier}

/-- **When an import stays with its package.** Wherever the package is found, the lookup succeeds,
and its path lies inside the package exactly if what is read there is no absolute path, or one
that lies inside the package itself. -/
theorem resolver_inside_iff (hs : Specifier.parse? specifier = some s)
    (hnearest : Nearest disk names s.package dir d n) :
    ∃ path, resolver disk names specifier dir = .ok path ∧
      ((rootIn d n s.package).components <+: path.components ↔
        ∀ text, InnerText disk (rootIn d n s.package) s.subpath (some text) →
          (Path.ofString text).isAbsolute = true →
            (rootIn d n s.package).components <+: (Path.ofString text).components) := by
  obtain ⟨text?, htext, hpath⟩ := target_eq_iff.1 (rfl : target disk (rootIn d n s.package) s = _)
  refine ⟨_, resolver_of_nearest hs hnearest, ?_⟩
  rw [← hpath, isPrefix_innerPath_iff]
  constructor
  · intro h text hinner
    exact h text (htext.unique hinner).symm
  · rintro h text rfl
    exact h text htext

/-! ## A package that is left -/

/-- A package whose manifest spells a path with one slash too many. -/
def uiDisk : Disk where
  isDirectory p := p = Path.ofString "/app/node_modules/ui"
  text? p :=
    if p = Path.ofString "/app/node_modules/ui/package.json" then
      some "\x7b\"sass\": \".//scss/ui.scss\"\x7d"
    else none

theorem nearest_ui : Nearest uiDisk ["node_modules"] "ui" (.ofString "/app") (.ofString "/app")
    "node_modules" where
  mem := by decide +kernel
  liesAt := by decide +kernel
  nearest e he m hm hlies := by
    have hdirs : (Path.ofString "/app").ancestors = [.ofString "/app", .ofString "/"] := by
      decide +kernel
    rw [hdirs] at he
    rcases List.mem_pair.1 he with rfl | rfl
    · exact .inl rfl
    · exact .inr ⟨by decide +kernel, by decide +kernel, by decide +kernel⟩
  first := ⟨[], [], rfl, by simp⟩

/-- With a subpath that is spelled as usual nothing is left, whatever the manifest says. -/
theorem resolver_inside_ui :
    Specifier.parse? "ui/../scss" = some ⟨"ui", some "../scss"⟩ ∧
      ∃ path, resolver uiDisk ["node_modules"] "ui/../scss" (.ofString "/app") = .ok path ∧
        (rootIn (.ofString "/app") "node_modules" "ui").components <+: path.components := by
  have hs : Specifier.parse? "ui/../scss" = some ⟨"ui", some "../scss"⟩ := by decide +kernel
  obtain ⟨path, hpath, hinside⟩ := resolver_inside_iff hs nearest_ui
  refine ⟨hs, path, hpath, hinside.2 fun text htext habs => ?_⟩
  cases htext with
  | subpath => exact absurd habs (by decide +kernel)

/-- The package is found, and both ways to read from it lead elsewhere. -/
theorem resolver_outside_ui :
    let root := rootIn (.ofString "/app") "node_modules" "ui"
    Nearest uiDisk ["node_modules"] "ui" (.ofString "/app") (.ofString "/app") "node_modules" ∧
      ∀ lookup ∈ [("ui", "/scss/ui.scss"), ("ui//scss/ui", "/scss/ui")],
        resolver uiDisk ["node_modules"] lookup.1 (.ofString "/app") = .ok (.ofString lookup.2) ∧
          ¬ root.components <+: (Path.ofString lookup.2).components := by
  refine ⟨nearest_ui, ?_⟩
  decide +kernel

end Stylesheet.Package
