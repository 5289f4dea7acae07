import Stylesheet.Package.Resolver
import Stylesheet.Proofs.Path.Ancestors

set_option autoImplicit false

/-! # The nearest package

A package is looked for upwards from the importing directory and, in each directory, under the
agreed names in their order. What is found is the nearest place of the package (`Nearest`), and a
lookup succeeds if there is one: what is meant inside the package, or what its manifest names
(`InnerText`), is read from that place, whether it exists or not (`resolver_nearest`).
-/

namespace Stylesheet.Package

variable {disk : Disk} {names : List String} {package : String} {dir d : Path} {n : String}

/-! ## Where a package lies -/

/-- The package lies in the directory `d` under the name `n`. -/
def LiesAt (disk : Disk) (package : String) (d : Path) (n : String) : Prop :=
  disk.isDirectory (rootIn d n package) = true

instance : Decidable (LiesAt disk package d n) := inferInstanceAs (Decidable (_ = true))

/-- Of all places where the package lies as seen from `dir`, the one that is meant: those in other
directories lie above it, and those in the same directory have later names. -/
structure Nearest (disk : Disk) (names : List String) (package : String) (dir d : Path)
    (n : String) : Prop where
  mem : d ∈ dir.ancestors
  liesAt : LiesAt disk package d n
  nearest : ∀ e ∈ dir.ancestors, ∀ m ∈ names, LiesAt disk package e m → e = d ∨ e.IsAbove d
  first : ∃ earlier later, names = earlier ++ n :: later ∧ ∀ m ∈ earlier, ¬ LiesAt disk package d m

theorem Nearest.mem_names (h : Nearest disk names package dir d n) : n ∈ names := by
  obtain ⟨earlier, later, rfl, -⟩ := h.first
  simp

theorem findIn?_eq_none_iff :
    findIn? disk names package d = none ↔ ∀ m ∈ names, ¬ LiesAt disk package d m := by
  rw [findIn?, List.find?_map, Option.map_eq_none_iff, List.find?_eq_none]
  rfl

/-- In one directory the first name decides. -/
theorem findIn?_eq_some_iff {root : Path} :
    findIn? disk names package d = some root ↔ ∃ n, LiesAt disk package d n ∧
      (∃ earlier later, names = earlier ++ n :: later ∧
        ∀ m ∈ earlier, ¬ LiesAt disk package d m) ∧ rootIn d n package = root := by
  rw [findIn?, List.find?_map, Option.map_eq_some_iff]
  refine exists_congr fun n => ?_
  rw [List.find?_eq_some_iff_append, and_assoc]
  simp [LiesAt]

/-- **The search finds the nearest place of a package**, and only that. -/
theorem findSome?_ancestors_eq_some_iff {root : Path} :
    dir.ancestors.findSome? (findIn? disk names package) = some root ↔
      ∃ d n, Nearest disk names package dir d n ∧ rootIn d n package = root := by
  have horder := dir.pairwise_ancestors
  rw [List.findSome?_eq_some_iff]
  constructor
  · rintro ⟨nearer, d, farther, hdirs, hfound, hnone⟩
    obtain ⟨n, hn, hfirst, hroot⟩ := findIn?_eq_some_iff.1 hfound
    refine ⟨d, n, ⟨by simp [hdirs], hn, fun e he m hm hlies => ?_, hfirst⟩, hroot⟩
    rw [hdirs] at he horder
    rcases List.mem_append.1 he with he | he
    · exact absurd hlies (findIn?_eq_none_iff.1 (hnone e he) m hm)
    · rcases List.mem_cons.1 he with rfl | he
      · exact .inl rfl
      · have htail := (List.pairwise_append.1 horder).2.1
        exact .inr (List.rel_of_pairwise_cons htail he)
  · rintro ⟨d, n, hnearest, hroot⟩
    obtain ⟨nearer, farther, hdirs⟩ := List.append_of_mem hnearest.mem
    refine ⟨nearer, d, farther, hdirs,
      findIn?_eq_some_iff.2 ⟨n, hnearest.liesAt, hnearest.first, hroot⟩, fun e he => ?_⟩
    -- all that comes before `d` lies below it, and no place of the package does
    rw [hdirs] at horder
    have hbelow : d.IsAbove e := (List.pairwise_append.1 horder).2.2 e he d (by simp)
    refine findIn?_eq_none_iff.2 fun m hm hlies => ?_
    rcases hnearest.nearest e (by simp [hdirs, he]) m hm hlies with rfl | habove
    · exact hbelow.asymm hbelow
    · exact hbelow.asymm habove

theorem findSome?_ancestors_eq_none_iff :
    dir.ancestors.findSome? (findIn? disk names package) = none ↔
      ∀ d ∈ dir.ancestors, ∀ n ∈ names, ¬ LiesAt disk package d n := by
  rw [List.findSome?_eq_none_iff]
  exact forall₂_congr fun d _ => findIn?_eq_none_iff

/-! ## What is read from a package -/

/-- The text is `rest` with any number of `./` in front, and `rest` does not start with one. -/
def StartsHere (text rest : String) : Prop :=
  ¬ ['.', '/'] <+: rest.toList ∧
    ∃ k, text.toList = (List.replicate k ['.', '/']).flatten ++ rest.toList

theorem dropHere_of_not_isPrefix {cs : List Char} (h : ¬ ['.', '/'] <+: cs) : dropHere cs = cs := by
  fun_cases dropHere cs with
  | case1 rest => exact absurd ⟨rest, rfl⟩ h
  | case2 => rfl

/-- All of the `./` go. -/
theorem startsHere_iff {text rest : String} :
    StartsHere text rest ↔ rest.toList = dropHere text.toList := by
  constructor
  · rintro ⟨hrest, k, htext⟩
    rw [htext]
    clear htext
    induction k with
    | zero => exact (dropHere_of_not_isPrefix hrest).symm
    | succ k ih => exact ih
  · intro h
    rw [StartsHere, h]
    generalize text.toList = cs
    fun_induction dropHere cs with
    | case1 rest ih =>
        obtain ⟨hrest, k, hk⟩ := ih
        refine ⟨hrest, k + 1, ?_⟩
        rw [List.replicate_succ, List.flatten_cons, List.append_assoc, ← hk]
        rfl
    | case2 cs hcs =>
        refine ⟨?_, 0, rfl⟩
        rintro ⟨rest, rfl⟩
        exact hcs rest rfl

/-- The manifest of the package at `root`, if it can be read and is one. -/
def manifestAt? (disk : Disk) (root : Path) : Option Manifest :=
  disk.text? (root.join (Path.ofString manifestName)) >>= Json.parseString? >>= Manifest.ofJson?

/-- The text that is read from the root of a package, if any, for what is meant inside it. -/
inductive InnerText (disk : Disk) (root : Path) : Option String → Option String → Prop
  | subpath (rest : String) : InnerText disk root (some rest) (some rest)
  | sass {m : Manifest} {entry rest : String} (hm : manifestAt? disk root = some m)
      (hentry : m.sass = some entry) (hrest : StartsHere entry rest) :
      InnerText disk root none (some rest)
  | style {m : Manifest} {entry rest : String} (hm : manifestAt? disk root = some m)
      (hsass : m.sass = none) (hentry : m.style = some entry) (hrest : StartsHere entry rest) :
      InnerText disk root none (some rest)
  /-- Without a manifest, and where the manifest names nothing, the directory itself is meant. -/
  | directory (h : ∀ m, manifestAt? disk root = some m → m.sass = none ∧ m.style = none) :
      InnerText disk root none none

/-- The path that a text leads to from the root of a package. -/
def innerPath (root : Path) : Option String → Path
  | some text => root.join (Path.ofString text)
  | none => root

theorem entryOf_eq (disk : Disk) (root : Path) : entryOf disk root
    = innerPath root (((manifestAt? disk root).bind Manifest.entry?).map
        fun entry => String.ofList (dropHere entry.toList)) := by
  rw [entryOf, manifestAt?]
  cases disk.text? (root.join (Path.ofString manifestName)) with
  | none => rfl
  | some text =>
      have hentry : manifestEntry? text
          = (Json.parseString? text >>= Manifest.ofJson?).bind Manifest.entry? := rfl
      simp only [Option.bind_eq_bind, Option.bind_some] at hentry ⊢
      rw [hentry]
      cases ((Json.parseString? text).bind Manifest.ofJson?).bind Manifest.entry? with
      | none => rfl
      | some entry => simp [innerPath, Path.ofString, Utf8.ofString]

/-- A manifest leaves one thing to read. -/
theorem innerText_none_iff {root : Path} {text? : Option String} :
    InnerText disk root none text? ↔
      ((manifestAt? disk root).bind Manifest.entry?).map
        (fun entry => String.ofList (dropHere entry.toList)) = text? := by
  have hrest : ∀ {entry rest : String}, StartsHere entry rest ↔
      String.ofList (dropHere entry.toList) = rest := by
    intro entry rest
    rw [startsHere_iff, ← String.toList_inj, String.toList_ofList, eq_comm]
  constructor
  · intro h
    cases h with
    | sass hm hentry h => simp [hm, Manifest.entry?, hentry, hrest.1 h]
    | style hm hsass hentry h => simp [hm, Manifest.entry?, hsass, hentry, hrest.1 h]
    | directory h =>
        cases hm : manifestAt? disk root with
        | none => rfl
        | some m =>
            obtain ⟨hsass, hstyle⟩ := h m hm
            simp [Manifest.entry?, hsass, hstyle]
  · rintro rfl
    cases hm : manifestAt? disk root with
    | none => exact .directory (by simp [hm])
    | some m =>
        obtain ⟨sass, style⟩ := m
        cases sass with
        | some entry => exact .sass hm rfl (hrest.2 rfl)
        | none =>
            cases style with
            | some entry => exact .style hm rfl rfl (hrest.2 rfl)
            | none =>
                refine .directory fun m' hm' => ?_
                obtain rfl := Option.some.inj (hm.symm.trans hm')
                exact ⟨rfl, rfl⟩

/-- What is meant by a specifier is what there is to read from its package. -/
theorem target_eq_iff {root path : Path} {s : Specifier} :
    target disk root s = path ↔
      ∃ text?, InnerText disk root s.subpath text? ∧ innerPath root text? = path := by
  rw [target]
  cases s.subpath with
  | some rest =>
      constructor
      · intro h
        exact ⟨some rest, .subpath rest, h⟩
      · rintro ⟨text?, h, hpath⟩
        cases h with
        | subpath rest => exact hpath
  | none => simp only [innerText_none_iff, exists_eq_left', entryOf_eq]

/-! ## Lookups -/

variable {specifier : String} {s : Specifier} {path : Path}

theorem resolver_of_parse_eq_none (hs : Specifier.parse? specifier = none) :
    resolver disk names specifier dir = .error (.invalidPackage specifier) := by
  rw [resolver, hs]

theorem resolver_of_nearest (hs : Specifier.parse? specifier = some s)
    (hnearest : Nearest disk names s.package dir d n) :
    resolver disk names specifier dir = .ok (target disk (rootIn d n s.package) s) := by
  have hroot := findSome?_ancestors_eq_some_iff.2 ⟨d, n, hnearest, rfl⟩
  rw [resolver, hs]
  simp only [hroot]

theorem resolver_of_nowhere (hs : Specifier.parse? specifier = some s)
    (hnowhere : ∀ d ∈ dir.ancestors, ∀ n ∈ names, ¬ LiesAt disk s.package d n) :
    resolver disk names specifier dir = .error (.packageNotFound specifier dir) := by
  have hroot := findSome?_ancestors_eq_none_iff.2 hnowhere
  rw [resolver, hs]
  simp only [hroot]

/-- A package that lies somewhere has a nearest place. -/
theorem nearest_or_nowhere (disk : Disk) (names : List String) (package : String) (dir : Path) :
    (∃ d n, Nearest disk names package dir d n) ∨
      ∀ d ∈ dir.ancestors, ∀ n ∈ names, ¬ LiesAt disk package d n := by
  cases hroot : dir.ancestors.findSome? (findIn? disk names package) with
  | none => exact .inr (findSome?_ancestors_eq_none_iff.1 hroot)
  | some root =>
      obtain ⟨d, n, hnearest, -⟩ := findSome?_ancestors_eq_some_iff.1 hroot
      exact .inl ⟨d, n, hnearest⟩

/-- A specifier that names a package leads to the nearest place of that package. -/
theorem resolver_eq_ok_iff (hs : Specifier.parse? specifier = some s) :
    resolver disk names specifier dir = .ok path ↔
      ∃ d n, Nearest disk names s.package dir d n ∧ ∃ text?,
        InnerText disk (rootIn d n s.package) s.subpath text? ∧
          innerPath (rootIn d n s.package) text? = path := by
  simp only [← target_eq_iff]
  constructor
  · intro h
    rcases nearest_or_nowhere disk names s.package dir with ⟨d, n, hnearest⟩ | hnowhere
    · rw [resolver_of_nearest hs hnearest] at h
      exact ⟨d, n, hnearest, Except.ok.inj h⟩
    · rw [resolver_of_nowhere hs hnowhere] at h
      cases h
  · rintro ⟨d, n, hnearest, rfl⟩
    exact resolver_of_nearest hs hnearest

theorem exists_resolver_eq_ok_iff (hs : Specifier.parse? specifier = some s) :
    (∃ path, resolver disk names specifier dir = .ok path) ↔
      ∃ d ∈ dir.ancestors, ∃ n ∈ names, LiesAt disk s.package d n := by
  rcases nearest_or_nowhere disk names s.package dir with ⟨d, n, hnearest⟩ | hnowhere
  · exact iff_of_true ⟨_, resolver_of_nearest hs hnearest⟩
      ⟨d, hnearest.mem, n, hnearest.mem_names, hnearest.liesAt⟩
  · refine iff_of_false (by simp [resolver_of_nowhere hs hnowhere]) ?_
    rintro ⟨d, hd, n, hn, hlies⟩
    exact hnowhere d hd n hn hlies

theorem resolver_eq_packageNotFound_iff (hs : Specifier.parse? specifier = some s) :
    resolver disk names specifier dir = .error (.packageNotFound specifier dir) ↔
      ∀ d ∈ dir.ancestors, ∀ n ∈ names, ¬ LiesAt disk s.package d n := by
  refine ⟨fun h => ?_, resolver_of_nowhere hs⟩
  rcases nearest_or_nowhere disk names s.package dir with ⟨d, n, hnearest⟩ | hnowhere
  · rw [resolver_of_nearest hs hnearest] at h
    cases h
  · exact hnowhere

theorem resolver_eq_invalidPackage_iff :
    resolver disk names specifier dir = .error (.invalidPackage specifier) ↔
      Specifier.parse? specifier = none := by
  refine ⟨fun h => ?_, resolver_of_parse_eq_none⟩
  cases hs : Specifier.parse? specifier with
  | none => rfl
  | some s =>
      rcases nearest_or_nowhere disk names s.package dir with ⟨d, n, hnearest⟩ | hnowhere
      · rw [resolver_of_nearest hs hnearest] at h
        cases h
      · rw [resolver_of_nowhere hs hnowhere] at h
        cases h

/-- **A lookup finds the nearest package.** A specifier that names no package fails whatever the
disk holds, and no other one fails like this. One that names a package succeeds exactly if the
package lies somewhere from the importing directory upwards, and fails with its own text and that
directory if not. The path that comes out is read from the nearest place of the package, whether it
exists or not. -/
theorem resolver_nearest (disk : Disk) (names : List String) (specifier : String) (dir : Path) :
    (resolver disk names specifier dir = .error (.invalidPackage specifier) ↔
      Specifier.parse? specifier = none) ∧
    (Specifier.parse? specifier = none →
      ∀ disk', resolver disk' names specifier dir = resolver disk names specifier dir) ∧
    ∀ s, Specifier.parse? specifier = some s →
      ((∃ path, resolver disk names specifier dir = .ok path) ↔
        ∃ d ∈ dir.ancestors, ∃ n ∈ names, LiesAt disk s.package d n) ∧
      (∀ path, resolver disk names specifier dir = .ok path ↔
        ∃ d n, Nearest disk names s.package dir d n ∧ ∃ text?,
          InnerText disk (rootIn d n s.package) s.subpath text? ∧
            innerPath (rootIn d n s.package) text? = path) ∧
      (resolver disk names specifier dir = .error (.packageNotFound specifier dir) ↔
        ∀ d ∈ dir.ancestors, ∀ n ∈ names, ¬ LiesAt disk s.package d n) := by
  refine ⟨resolver_eq_invalidPackage_iff, fun hs disk' => ?_, fun s hs => ?_⟩
  · rw [resolver_of_parse_eq_none hs, resolver_of_parse_eq_none hs]
  · exact ⟨exists_resolver_eq_ok_iff hs, fun path => resolver_eq_ok_iff hs,
      resolver_eq_packageNotFound_iff hs⟩

/-- A disk on which a package lies in three places. -/
def themesDisk : Disk where
  isDirectory p := p ∈ ["/app/vendor/theme", "/app/src/node_modules/theme",
    "/app/src/vendor/theme"].map Path.ofString
  text? _ := none

/-- Of the places in the nearest directory the one with the first name is found, and what is meant
in the package need not exist. -/
theorem resolver_nearest_themes :
    Specifier.parse? "theme/dark" = some ⟨"theme", some "dark"⟩ ∧
      ∃ d n, Nearest themesDisk ["vendor", "node_modules"] "theme" (.ofString "/app/src/ui") d n ∧
        ∃ text?, InnerText themesDisk (rootIn d n "theme") (some "dark") text? ∧
          innerPath (rootIn d n "theme") text? = .ofString "/app/src/vendor/theme/dark" := by
  have hs : Specifier.parse? "theme/dark" = some ⟨"theme", some "dark"⟩ := by decide +kernel
  obtain ⟨-, -, hnames⟩ := resolver_nearest themesDisk ["vendor", "node_modules"] "theme/dark"
    (.ofString "/app/src/ui")
  obtain ⟨-, hpath, -⟩ := hnames _ hs
  exact ⟨hs, (hpath _).1 (by decide +kernel)⟩

end Stylesheet.Package
