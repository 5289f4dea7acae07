import Stylesheet.FileSystem.Memory
import Stylesheet.Importer.Basic
import Stylesheet.Proofs.Text.Pieces

set_option autoImplicit false

/-! # What specifiers mean

A specifier means nothing, a path or a package, and its text and the importing directory alone
decide which (`Means`). Reading it asks for that package if there is one, once, and does nothing
else (`specifierPath_of_means`), so no specifier means two things (`Means.unique`).
-/

namespace Stylesheet

def Event.lookup? : Event → Option (String × Path)
  | packageLookup specifier dir => some (specifier, dir)
  | _ => none

namespace Traced

variable {α β : Type}

def lookups (x : Traced α) : List (String × Path) := x.events.filterMap Event.lookup?

@[simp] theorem lookups_pure (a : α) : (pure a : Traced α).lookups = [] := rfl

@[simp] theorem lookups_bind (x : Traced α) (f : α → Traced β) :
    (x >>= f).lookups = x.lookups ++ (f x.value).lookups := by
  simp [lookups]

@[simp] theorem lookups_map (f : α → β) (x : Traced α) : (f <$> x).lookups = x.lookups := by
  rw [lookups, events_map, lookups]

end Traced

namespace Importer

inductive Meaning
  /-- Nothing that could be looked for. -/
  | nothing
  | path (p : Path)
  /-- A package, seen from a directory. -/
  | package (specifier : String) (dir : Path)

namespace Meaning

def lookups : Meaning → List (String × Path)
  | package specifier dir => [(specifier, dir)]
  | _ => []

def target (packages : PackageResolver) : Meaning → Except Failure (Option Path)
  | nothing => .ok none
  | path p => .ok (some p)
  | package specifier dir => (packages specifier dir).map some

/-- What comes of reading a specifier with a meaning, and all that happens: a package is looked up
at once, and nothing else is done. -/
def reading (packages : PackageResolver) (m : Meaning) : Traced (Except Failure (Option Path)) :=
  ⟨m.target packages, m.lookups.map fun (specifier, dir) => .packageLookup specifier dir⟩

variable (packages : PackageResolver) (m : Meaning)

@[simp] theorem value_reading : (m.reading packages).value = m.target packages := rfl

@[simp] theorem lookups_reading : (m.reading packages).lookups = m.lookups := by
  cases m <;> rfl

@[simp] theorem probes_reading : (m.reading packages).probes = [] := by
  cases m <;> rfl

theorem length_lookups_le_one : m.lookups.length ≤ 1 := by
  cases m <;> simp [lookups]

/-- Only a package can fail. -/
theorem target_eq_error_iff {e : Failure} : m.target packages = .error e ↔
    ∃ specifier dir, m.lookups = [(specifier, dir)] ∧ packages specifier dir = .error e := by
  cases m with
  | nothing => simp [target, lookups]
  | path p => simp [target, lookups]
  | package specifier dir =>
      constructor
      · intro h
        refine ⟨specifier, dir, rfl, ?_⟩
        cases hp : packages specifier dir with
        | error e' => simpa [target, hp, Except.map] using h
        | ok p => simp [target, hp, Except.map] at h
      · rintro ⟨_, _, hl, he⟩
        obtain ⟨rfl, rfl⟩ : specifier = _ ∧ dir = _ := by simpa [lookups] using hl
        simp [target, he, Except.map]

/-- Only where nothing is meant there is no path without a failure. -/
theorem target_eq_ok_none_iff : m.target packages = .ok none ↔ m = .nothing := by
  cases m with
  | nothing => simp [target]
  | path p => simp [target]
  | package specifier dir =>
      cases hp : packages specifier dir with
      | error e => simp [target, hp, Except.map]
      | ok p => simp [target, hp, Except.map]

end Meaning

/-- What a specifier means in a stylesheet of the directory `dir`. The cases are told apart by the
text alone, and each specifier has exactly one meaning (`exists_means`, `Means.unique`). -/
inductive Means (specifier : String) (dir : Path) : Meaning → Prop
  /-- After `~` stands a package, percent-encoded, as it is seen from the directory. -/
  | tilde {rest : List Char} :
      specifier.toList = packageMark ++ rest →
      Means specifier dir (.package (Percent.decodeString (String.ofList rest)) dir)
  /-- A URL may name no file. -/
  | noFile :
      fileUrlMark <+: specifier.toList →
      (∀ u, Url.parse specifier = .ok u → u.toFilePath? = none) →
      Means specifier dir .nothing
  /-- A URL names a file. -/
  | file {u : Url} {p : Path} :
      fileUrlMark <+: specifier.toList → Url.parse specifier = .ok u → u.toFilePath? = some p →
      ¬ embeddedMark <:+: p.display.toList →
      Means specifier dir (.path p)
  /-- A URL may name a package that was joined to a directory: it stands behind the last mark. -/
  | embedded {u : Url} {p : Path} {before package : List Char} :
      fileUrlMark <+: specifier.toList → Url.parse specifier = .ok u → u.toFilePath? = some p →
      p.display.toList = before ++ (embeddedMark ++ package) → ¬ embeddedMark <:+: package →
      Means specifier dir
        (.package (String.ofList package) (Path.ofString (String.ofList before)))
  /-- Everything else is a path, percent-encoded. -/
  | plain :
      ¬ packageMark <+: specifier.toList → ¬ fileUrlMark <+: specifier.toList →
      Means specifier dir (.path (Path.ofString (Percent.decodeString specifier)))

/-! ## Reading a specifier -/

variable (i : Importer) {specifier : String} {dir : Path} {m : Meaning}

theorem after?_packageMark_of_url {cs : List Char} (h : fileUrlMark <+: cs) :
    Text.after? packageMark cs = none := by
  obtain ⟨rest, rfl⟩ := h
  rfl

theorem mark_not_mem : ('/' : Char) ∉ ['~'] := by decide

/-- The file that the text of a URL names. -/
theorem specifierPath_of_url (h : fileUrlMark <+: specifier.toList) :
    i.specifierPath specifier dir =
      match (Url.parse specifier).toOption >>= Url.toFilePath? with
      | none => Meaning.nothing.reading i.config.packages
      | some p => do return (← i.unembed p).map some := by
  rw [specifierPath, after?_packageMark_of_url h]
  simp only [List.isPrefixOf_iff_prefix.2 h, if_true]
  rfl

/-- Reading a specifier comes to what it means. -/
theorem specifierPath_of_means (h : Means specifier dir m) :
    i.specifierPath specifier dir = m.reading i.config.packages := by
  cases h with
  | tilde hmark =>
      have hafter := Text.after?_eq_some_iff.2 hmark
      rw [specifierPath, hafter]
      rfl
  | noFile hurl hnone =>
      have hfile : (Url.parse specifier).toOption >>= Url.toFilePath? = none := by
        cases hp : Url.parse specifier with
        | error e => rfl
        | ok u => exact hnone u hp
      rw [i.specifierPath_of_url hurl, hfile]
  | file hurl hparse hfile hmark =>
      have hcut := Text.cutAtLast?_eq_none_iff.2 hmark
      rw [i.specifierPath_of_url hurl, hparse]
      simp only [Except.toOption, Option.bind_eq_bind, Option.bind_some, hfile, unembed, hcut]
      rfl
  | embedded hurl hparse hfile htext hlast =>
      have hcut := (Text.cutAtLast?_eq_some_iff mark_not_mem).2 ⟨htext, hlast⟩
      rw [i.specifierPath_of_url hurl, hparse]
      simp only [Except.toOption, Option.bind_eq_bind, Option.bind_some, hfile, unembed]
      rw [embeddedMark, hcut]
      rfl
  | plain hpackage hurl =>
      have hafter := Text.after?_eq_none_iff.2 hpackage
      rw [specifierPath, hafter]
      simp only [mt List.isPrefixOf_iff_prefix.1 hurl]
      rfl

/-- Every specifier means something. -/
theorem exists_means (specifier : String) (dir : Path) : ∃ m, Means specifier dir m := by
  by_cases hpackage : packageMark <+: specifier.toList
  · obtain ⟨rest, hrest⟩ := hpackage
    exact ⟨_, .tilde hrest.symm⟩
  · by_cases hurl : fileUrlMark <+: specifier.toList
    · cases hfile : (Url.parse specifier).toOption >>= Url.toFilePath? with
      | none =>
          refine ⟨_, .noFile hurl fun u hu => ?_⟩
          rw [hu] at hfile
          exact hfile
      | some p =>
          obtain ⟨u, hparse, hp⟩ : ∃ u, Url.parse specifier = .ok u ∧ u.toFilePath? = some p := by
            cases hparse : Url.parse specifier with
            | error e =>
                rw [hparse] at hfile
                cases hfile
            | ok u =>
                rw [hparse] at hfile
                exact ⟨u, rfl, hfile⟩
          by_cases hmark : embeddedMark <:+: p.display.toList
          · cases hcut : Text.cutAtLast? embeddedMark p.display.toList with
            | none => exact absurd hmark (Text.cutAtLast?_eq_none_iff.1 hcut)
            | some cut =>
                obtain ⟨htext, hlast⟩ := (Text.cutAtLast?_eq_some_iff mark_not_mem).1 hcut
                exact ⟨_, .embedded hurl hparse hp htext hlast⟩
          · exact ⟨_, .file hurl hparse hp hmark⟩
    · exact ⟨_, .plain hpackage hurl⟩

/-- **A specifier means one thing.** -/
theorem Means.unique {m' : Meaning} (h : Means specifier dir m) (h' : Means specifier dir m') :
    m' = m := by
  -- an importer that finds no packages tells meanings apart by what it does
  let i : Importer :=
    ⟨{ packages := fun _ _ => .error .endless }, MemoryFs.empty.toFileSystem, .empty⟩
  have hread : m'.reading i.config.packages = m.reading i.config.packages :=
    (i.specifierPath_of_means h').symm.trans (i.specifierPath_of_means h)
  cases m <;> cases m' <;> simp_all [i, Meaning.reading, Meaning.target, Meaning.lookups, Except.map]

end Importer

end Stylesheet
