import Mathlib.Data.List.Nodup
import Stylesheet.Disk.Edit
import Stylesheet.Proofs.Project.Below
import Stylesheet.Proofs.Project.Entries

set_option autoImplicit false

/-! # Which files are entries

A file that a walk visits is an entry if it is a stylesheet to be compiled, lies in no directory of
installed packages, passes the filter below the root, and is no partial. Two of these go beyond the
names below the root: a root that itself lies among installed packages has no entries at all, and a
partial is taken for an entry if its name is not text. For every other project the entries are as
said, and where the project lies makes no difference (`entriesAmong_exact_iff`).
-/

namespace Stylesheet.Project

variable {root : Path} {filter : Option String} {names : List Name}

/-- A path passes through a directory of installed packages. -/
def AmongPackages (p : Path) : Prop :=
  .name (Name.ofString Package.defaultDirectory) ∈ p.components

instance (p : Path) : Decidable (AmongPackages p) := inferInstanceAs (Decidable (_ ∈ _))

/-- Below the root the names lead to a stylesheet that is compiled and belongs to no installed
package, and their text passes the filter. -/
structure Qualifies (root : Path) (filter : Option String) (names : List Name) : Prop where
  not_installed : Name.ofString Package.defaultDirectory ∉ names
  compiled : (pathBelow root names).extension? = some Dialect.scssExtension ∨
    (pathBelow root names).extension? = some Dialect.sassExtension
  passes : ∀ text ∈ filter,
    text.toList <:+: (Path.display ⟨Text.join Path.separator names⟩).toList

def EndsInPartial (p : Path) : Prop := ∃ n, p.fileName? = some n ∧ n.head? = some partialMark

/-- The path ends in a name that is text, or in none. -/
def EndsInText (p : Path) : Prop := ∀ n, p.fileName? = some n → Utf8.isValid n = true

/-! ## One file -/

theorem isInstalled_iff {p : Path} : isInstalled p = true ↔ AmongPackages p := by
  simp [isInstalled, AmongPackages]

/-- The directories of packages are those of the root and those below it. -/
theorem amongPackages_pathBelow (root : Path) (h : ∀ n ∈ names, n.IsStep) :
    AmongPackages (pathBelow root names) ↔
      AmongPackages root ∨ Name.ofString Package.defaultDirectory ∈ names := by
  have hname : Component.name (Name.ofString Package.defaultDirectory)
      = Component.step (Name.ofString Package.defaultDirectory) :=
    (Component.step_of_ne (by decide +kernel)).symm
  calc AmongPackages (pathBelow root names)
      ↔ .name (Name.ofString Package.defaultDirectory)
          ∈ root.components ++ names.map Component.step := by
        rw [AmongPackages, components_pathBelow root h]
    _ ↔ AmongPackages root ∨ Component.step (Name.ofString Package.defaultDirectory)
          ∈ names.map Component.step := by rw [List.mem_append, AmongPackages, hname]
    _ ↔ AmongPackages root ∨ Name.ofString Package.defaultDirectory ∈ names := by
        rw [List.mem_map_of_injective Component.step_injective]

theorem isPartial_iff {p : Path} : isPartial p = true ↔ EndsInPartial p ∧ EndsInText p := by
  unfold isPartial EndsInPartial EndsInText
  cases p.fileName? with
  | none => simp
  | some n => simp

theorem passes_pathBelow (h : ∀ n ∈ names, n.IsStep) :
    passes root filter (pathBelow root names) = true ↔ ∀ text ∈ filter,
      text.toList <:+: (Path.display ⟨Text.join Path.separator names⟩).toList := by
  unfold passes
  cases filter with
  | none => simp
  | some text => simp [displayFrom_pathBelow root h, Text.occursIn_iff]

/-- **What makes an entry of a file**: it qualifies, the root lies outside of packages, and the file
is no partial, or one whose name is not text. -/
theorem isEntryPath_pathBelow (h : ∀ n ∈ names, n.IsStep) :
    isEntryPath root filter (pathBelow root names) = true ↔
      Qualifies root filter names ∧ ¬ AmongPackages root ∧
        ¬ (EndsInPartial (pathBelow root names) ∧ EndsInText (pathBelow root names)) := by
  have hcompiled : isCompiled (pathBelow root names) = true ↔
      (pathBelow root names).extension? = some Dialect.scssExtension ∨
        (pathBelow root names).extension? = some Dialect.sassExtension := by
    simp [isCompiled]
  have hinstalled : isInstalled (pathBelow root names) = false ↔
      ¬ AmongPackages root ∧ Name.ofString Package.defaultDirectory ∉ names := by
    rw [← Bool.not_eq_true, isInstalled_iff, amongPackages_pathBelow root h, not_or]
  have hpartial : isPartial (pathBelow root names) = false ↔
      ¬ (EndsInPartial (pathBelow root names) ∧ EndsInText (pathBelow root names)) := by
    rw [← Bool.not_eq_true, isPartial_iff]
  have hfour : isEntryPath root filter (pathBelow root names) = true ↔
      isInstalled (pathBelow root names) = false ∧ isCompiled (pathBelow root names) = true ∧
        isPartial (pathBelow root names) = false ∧
        passes root filter (pathBelow root names) = true := by
    simp [isEntryPath, and_assoc]
  rw [hfour, hinstalled, hcompiled, hpartial, passes_pathBelow h]
  constructor
  · rintro ⟨⟨hroot, hnames⟩, hext, hpartial, hpasses⟩
    exact ⟨⟨hnames, hext, hpasses⟩, hroot, hpartial⟩
  · rintro ⟨⟨hnames, hext, hpasses⟩, hroot, hpartial⟩
    exact ⟨⟨hroot, hnames⟩, hext, hpartial, hpasses⟩

/-! ## The place of the project -/

/-- The name at the end is that of the names, or the root's where there are none. -/
theorem fileName?_pathBelow {root' : Path} (h : ∀ n ∈ names, n.IsStep)
    (hroot : names = [] → root.fileName? = root'.fileName?) :
    (pathBelow root names).fileName? = (pathBelow root' names).fileName? := by
  rcases names.eq_nil_or_concat' with rfl | ⟨before, n, rfl⟩
  · exact hroot rfl
  · rw [Path.fileName?_eq, Path.fileName?_eq, components_pathBelow root h,
      components_pathBelow root' h]
    simp

theorem extension?_pathBelow {root' : Path} (h : ∀ n ∈ names, n.IsStep)
    (hroot : names = [] → root.fileName? = root'.fileName?) :
    (pathBelow root names).extension? = (pathBelow root' names).extension? := by
  rw [Path.extension?, Path.extension?, fileName?_pathBelow h hroot]

/-- Where the project lies makes no difference to a file in it, as far as packages do not. -/
theorem isEntryPath_relocated {root' : Path} (h : ∀ n ∈ names, n.IsStep)
    (hroot : names = [] → root.fileName? = root'.fileName?)
    (hamong : AmongPackages root' ↔ AmongPackages root) :
    isEntryPath root' filter (pathBelow root' names)
      = isEntryPath root filter (pathBelow root names) := by
  have hqualifies : Qualifies root' filter names ↔ Qualifies root filter names := by
    constructor
    · rintro ⟨hnames, hext, hpasses⟩
      exact ⟨hnames, by rwa [extension?_pathBelow h hroot], hpasses⟩
    · rintro ⟨hnames, hext, hpasses⟩
      exact ⟨hnames, by rwa [extension?_pathBelow h hroot] at hext, hpasses⟩
  have hname := fileName?_pathBelow h hroot
  have hpartial : EndsInPartial (pathBelow root' names) ↔ EndsInPartial (pathBelow root names) := by
    rw [EndsInPartial, EndsInPartial, hname]
  have htext : EndsInText (pathBelow root' names) ↔ EndsInText (pathBelow root names) := by
    rw [EndsInText, EndsInText, hname]
  refine Bool.eq_iff_iff.2 ?_
  calc isEntryPath root' filter (pathBelow root' names) = true
      ↔ Qualifies root' filter names ∧ ¬ AmongPackages root' ∧
          ¬ (EndsInPartial (pathBelow root' names) ∧ EndsInText (pathBelow root' names)) :=
        isEntryPath_pathBelow h
    _ ↔ Qualifies root filter names ∧ ¬ AmongPackages root ∧
          ¬ (EndsInPartial (pathBelow root names) ∧ EndsInText (pathBelow root names)) := by
        rw [hqualifies, hamong, hpartial, htext]
    _ ↔ isEntryPath root filter (pathBelow root names) = true := (isEntryPath_pathBelow h).symm

/-! ## The entries of a walk -/

def namesLe (names names' : List Name) : Bool :=
  (compare (names.map Component.step) (names'.map Component.step)).isLE

/-- The names of the entries among what was visited, in the order of the entries. -/
def entryNames (isFile : Path → Bool) (root : Path) (filter : Option String)
    (visited : List (List Name)) : List (List Name) :=
  (visited.filter fun names =>
    isFile (pathBelow root names) && isEntryPath root filter (pathBelow root names)).mergeSort
      namesLe

/-- What a project should have as its entries: the files that were visited, qualify, and are no
partials. -/
def IsWanted (isFile : Path → Bool) (root : Path) (filter : Option String)
    (visited : List (List Name)) (p : Path) : Prop :=
  ∃ names ∈ visited, pathBelow root names = p ∧ isFile p = true ∧ Qualifies root filter names ∧
    ¬ EndsInPartial p

variable {isFile : Path → Bool} {visited : List (List Name)}

theorem mem_entryNames (h : names ∈ entryNames isFile root filter visited) : names ∈ visited := by
  rw [entryNames, List.mem_mergeSort] at h
  exact List.mem_of_mem_filter h

/-- Entries are sorted by their names below the root. -/
theorem entriesAmong_map (hsteps : ∀ names ∈ visited, ∀ n ∈ names, n.IsStep) :
    entriesAmong isFile root filter (visited.map (pathBelow root))
      = (entryNames isFile root filter visited).map (pathBelow root) := by
  rw [entriesAmong, List.filter_map, entryNames]
  refine (List.map_mergeSort fun names hnames names' hnames' => ?_).symm
  exact (pathLe_pathBelow root (hsteps names (List.mem_of_mem_filter hnames))
    (hsteps names' (List.mem_of_mem_filter hnames'))).symm

/-- The entries come in strict order, so that no path is there twice. -/
theorem pairwise_entriesAmong (hdup : visited.Nodup)
    (hsteps : ∀ names ∈ visited, ∀ n ∈ names, n.IsStep) :
    (entriesAmong isFile root filter (visited.map (pathBelow root))).Pairwise
      fun p q => compare p q = .lt := by
  have hsorted : (entriesAmong isFile root filter (visited.map (pathBelow root))).Pairwise
      fun p q => pathLe p q = true := List.pairwise_mergeSort pathLe_trans pathLe_total _
  have hnodup : (entryNames isFile root filter visited).Nodup :=
    (List.mergeSort_perm _ _).nodup_iff.2 (hdup.filter _)
  rw [entriesAmong_map hsteps, List.pairwise_map] at hsorted ⊢
  refine List.Pairwise.imp_of_mem ?_ (hsorted.and hnodup)
  intro names names' hnames hnames' ⟨hle, hne⟩
  cases hcompare : compare (pathBelow root names) (pathBelow root names') with
  | lt => rfl
  | eq =>
      have hcomponents : compare (pathBelow root names).components
          (pathBelow root names').components = .eq := hcompare
      have hsame := Std.LawfulEqOrd.eq_of_compare hcomponents
      exact absurd (eq_of_components_pathBelow (hsteps names (mem_entryNames hnames))
        (hsteps names' (mem_entryNames hnames')) hsame) hne
  | gt => simp [pathLe, hcompare] at hle

theorem mem_entriesAmong_map {p : Path} (hsteps : ∀ names ∈ visited, ∀ n ∈ names, n.IsStep) :
    p ∈ entriesAmong isFile root filter (visited.map (pathBelow root)) ↔
      ∃ names ∈ visited, pathBelow root names = p ∧ isFile p = true ∧
        Qualifies root filter names ∧ ¬ AmongPackages root ∧
          ¬ (EndsInPartial p ∧ EndsInText p) := by
  rw [mem_entriesAmong, List.mem_map]
  constructor
  · rintro ⟨⟨names, hnames, rfl⟩, hfile, hentry⟩
    exact ⟨names, hnames, rfl, hfile, (isEntryPath_pathBelow (hsteps names hnames)).1 hentry⟩
  · rintro ⟨names, hnames, rfl, hfile, hentry⟩
    exact ⟨⟨names, hnames, rfl⟩, hfile, (isEntryPath_pathBelow (hsteps names hnames)).2 hentry⟩

/-- When the entries are those that a project should have. -/
theorem forall_isWanted_iff (hsteps : ∀ names ∈ visited, ∀ n ∈ names, n.IsStep) :
    (∀ p, p ∈ entriesAmong isFile root filter (visited.map (pathBelow root)) ↔
        IsWanted isFile root filter visited p) ↔
      ∀ names ∈ visited, isFile (pathBelow root names) = true → Qualifies root filter names →
        if AmongPackages root then EndsInPartial (pathBelow root names)
        else EndsInPartial (pathBelow root names) → EndsInText (pathBelow root names) := by
  constructor
  · intro hexact names hnames hfile hqualifies
    have hmem := (hexact (pathBelow root names)).symm.trans (mem_entriesAmong_map hsteps)
    split
    · next hamong =>
        by_contra hpartial
        obtain ⟨-, -, -, -, -, hout, -⟩ := hmem.1 ⟨names, hnames, rfl, hfile, hqualifies, hpartial⟩
        exact hout hamong
    · next hout =>
        intro hpartial
        by_contra htext
        obtain ⟨-, -, -, -, -, hno⟩ :=
          hmem.2 ⟨names, hnames, rfl, hfile, hqualifies, hout, fun h => htext h.2⟩
        exact hno hpartial
  · intro hfits p
    rw [mem_entriesAmong_map hsteps]
    constructor
    · rintro ⟨names, hnames, rfl, hfile, hqualifies, hout, hpartial⟩
      have hfit := hfits names hnames hfile hqualifies
      rw [if_neg hout] at hfit
      exact ⟨names, hnames, rfl, hfile, hqualifies, fun h => hpartial ⟨h, hfit h⟩⟩
    · rintro ⟨names, hnames, rfl, hfile, hqualifies, hpartial⟩
      have hfit := hfits names hnames hfile hqualifies
      have hout : ¬ AmongPackages root := fun hamong => hpartial (by rwa [if_pos hamong] at hfit)
      exact ⟨names, hnames, rfl, hfile, hqualifies, hout, fun h => hpartial h.1⟩

/-- At another place the entries have the same names. -/
theorem entryNames_relocated {root' : Path} {isFile' : Path → Bool}
    (hsteps : ∀ names ∈ visited, ∀ n ∈ names, n.IsStep)
    (hfiles : ∀ names ∈ visited, isFile' (pathBelow root' names) = isFile (pathBelow root names))
    (hroot : isFile root = true → root.fileName? = root'.fileName?)
    (hamong : AmongPackages root' ↔ AmongPackages root) :
    entryNames isFile' root' filter visited = entryNames isFile root filter visited := by
  unfold entryNames
  congr 1
  refine List.filter_congr fun names hnames => ?_
  rw [hfiles names hnames]
  cases hfile : isFile (pathBelow root names) with
  | false => rfl
  | true =>
      -- only a file can be visited without a name, and then it is the root
      rw [isEntryPath_relocated (hsteps names hnames) (fun hnil => hroot (by rwa [hnil] at hfile))
        hamong]

/-- **The entries of a project**, whatever its root, its filter and the names that a walk visits:
they are sorted, none is there twice, and each is a file that qualifies, unless the root lies among
installed packages, and that is no partial whose name is text. They are the entries that the
project should have exactly if no file says otherwise: one that qualifies is a partial where the
root lies among packages, and a partial that qualifies has a name that is text elsewhere. A project
with the same files at another root has the same entries below it, if neither or both of the roots
lie among packages; only a root that is a file itself counts with its own name. -/
theorem entriesAmong_exact_iff (isFile : Path → Bool) (root : Path) (filter : Option String)
    {visited : List (List Name)} (hdup : visited.Nodup)
    (hsteps : ∀ names ∈ visited, ∀ n ∈ names, n.IsStep) :
    let collected := entriesAmong isFile root filter (visited.map (pathBelow root))
    (∀ d : Disk, d.isFile = isFile → walk d root = .ok visited →
        entries d root filter = .ok collected) ∧
      collected.Pairwise (fun p q => compare p q = .lt) ∧
      (∀ p, p ∈ collected ↔ ∃ names ∈ visited, pathBelow root names = p ∧ isFile p = true ∧
        Qualifies root filter names ∧ ¬ AmongPackages root ∧
          ¬ (EndsInPartial p ∧ EndsInText p)) ∧
      ((∀ p, p ∈ collected ↔ IsWanted isFile root filter visited p) ↔
        ∀ names ∈ visited, isFile (pathBelow root names) = true → Qualifies root filter names →
          if AmongPackages root then EndsInPartial (pathBelow root names)
          else EndsInPartial (pathBelow root names) → EndsInText (pathBelow root names)) ∧
      ∀ (root' : Path) (isFile' : Path → Bool),
        (∀ names ∈ visited, isFile' (pathBelow root' names) = isFile (pathBelow root names)) →
        (isFile root = true → root.fileName? = root'.fileName?) →
        (AmongPackages root' ↔ AmongPackages root) →
          ∃ kept : List (List Name), collected = kept.map (pathBelow root) ∧
            entriesAmong isFile' root' filter (visited.map (pathBelow root'))
              = kept.map (pathBelow root') := by
  intro collected
  refine ⟨?_, pairwise_entriesAmong hdup hsteps, fun p => mem_entriesAmong_map hsteps,
    forall_isWanted_iff hsteps, ?_⟩
  · rintro d rfl hwalk
    rw [entries, hwalk]
    rfl
  · intro root' isFile' hfiles hroot hamong
    -- the names of the entries are the same wherever the project lies
    refine ⟨entryNames isFile root filter visited, entriesAmong_map hsteps, ?_⟩
    rw [entriesAmong_map hsteps, entryNames_relocated hsteps hfiles hroot hamong]

/-- A site and an installed package, each with a stylesheet. -/
def workspace : Disk :=
  let files : List String :=
    ["/work/app/_theme.scss", "/work/app/site.scss", "/work/node_modules/ui/main.scss"]
  files.foldl (fun d file => d.writeFile (.ofString file) []) {}

def workspaceVisited : List (List Name) :=
  [[], ["app"], ["app", "_theme.scss"], ["app", "site.scss"], ["node_modules"],
    ["node_modules", "ui"], ["node_modules", "ui", "main.scss"]].map (·.map Name.ofString)

/-- From the root of the workspace the entries are as they should be. -/
theorem entriesAmong_exact_iff_workspace :
    let root : Path := .ofString "/work"
    walk workspace root = .ok workspaceVisited ∧ workspaceVisited.Nodup ∧
      (∀ names ∈ workspaceVisited, ∀ n ∈ names, n.IsStep) ∧
      ∃ collected, entries workspace root none = .ok collected ∧
        ∀ p, p ∈ collected ↔ IsWanted workspace.isFile root none workspaceVisited p := by
  intro root
  have hwalk : walk workspace root = .ok workspaceVisited := by decide +kernel
  have hdup : workspaceVisited.Nodup := by decide +kernel
  have hsteps := isStep_of_mem_walk hwalk
  have hout : ¬ AmongPackages root := by decide +kernel
  have htext : ∀ names ∈ workspaceVisited,
      (pathBelow root names).fileName?.all Utf8.isValid = true := by decide +kernel
  obtain ⟨hentries, -, -, hexact, -⟩ :=
    entriesAmong_exact_iff workspace.isFile root none hdup hsteps
  refine ⟨hwalk, hdup, hsteps, _, hentries workspace rfl hwalk, hexact.2 ?_⟩
  intro names hnames _ _
  rw [if_neg hout]
  intro _ n hn
  have hname := htext names hnames
  rwa [hn] at hname

/-- From the root of the package there are none, though its stylesheet should be one. -/
theorem entries_workspace_package :
    let root : Path := .ofString "/work/node_modules/ui"
    let visited : List (List Name) := [[], [.ofString "main.scss"]]
    walk workspace root = .ok visited ∧ visited.Nodup ∧ entries workspace root none = .ok [] ∧
      IsWanted workspace.isFile root none visited
        (.ofString "/work/node_modules/ui/main.scss") := by
  intro root visited
  have hwalk : walk workspace root = .ok visited := by decide +kernel
  have hnone : (visited.map (pathBelow root)).filter
      (fun p => workspace.isFile p && isEntryPath root none p) = [] := by decide +kernel
  have hqualifies : Qualifies root none [Name.ofString "main.scss"] :=
    { not_installed := by decide +kernel
      compiled := by decide +kernel
      passes := by simp }
  have hpartial : ¬ EndsInPartial (.ofString "/work/node_modules/ui/main.scss") := by
    have hname : (Path.ofString "/work/node_modules/ui/main.scss").fileName?.all
        (fun n => n.head? != some partialMark) = true := by decide +kernel
    rintro ⟨n, hn, hmark⟩
    rw [hn] at hname
    simp [hmark] at hname
  refine ⟨hwalk, by decide +kernel, ?_, [.ofString "main.scss"], by decide +kernel,
    by decide +kernel, by decide +kernel, hqualifies, hpartial⟩
  rw [entries, hwalk]
  show Except.ok (entriesAmong _ _ _ _) = _
  rw [entriesAmong, hnone, List.mergeSort_nil]

end Stylesheet.Project
