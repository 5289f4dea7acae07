import Mathlib.Data.List.Forall2
import Stylesheet.Proofs.Path.Shown
import Stylesheet.Proofs.Url.Dotted
import Stylesheet.SourceMap.Located

set_option autoImplicit false

/-! # Sources named from the directory of the entry

`forEntry` names a source by its way from the directory of the entry, as text. Read from that
directory again the text leads to the source (`Path.Names`), unless names on the way are not UTF-8,
or the directory is spelled with a `..`: the way goes up over each of its components, and a `..` is
none that can be gone up over (`Fork.names_way_iff`). A source that stands in its own URL is named as
the entry is, which lies in its directory however that is spelled (`Fork.names_child_iff`).
-/

namespace Stylesheet

namespace Path

variable {base dir p q target : Path} {text : String}

/-- Read from the directory `dir`, the text is a relative path and leads to `p`. -/
structure Names (dir : Path) (text : String) (p : Path) : Prop where
  relative : (ofString text).isAbsolute = false
  leads : (dir.join (ofString text)).clean = p.clean

theorem names_congr (h : q.clean = p.clean) : dir.Names text q ↔ dir.Names text p :=
  ⟨fun hq => ⟨hq.relative, hq.leads.trans h⟩, fun hp => ⟨hp.relative, hp.leads.trans h.symm⟩⟩

theorem isAbsolute_parentOrSelf (h : p.isAbsolute = true) : p.parentOrSelf.isAbsolute = true := by
  rw [isAbsolute_eq_head?, beq_iff_eq] at h ⊢
  have hne := parentOrSelf_ne_nil h
  obtain ⟨rest, hrest⟩ := p.parentOrSelf_isPrefix
  rwa [← hrest, List.head?_append_of_ne_nil _ hne] at h

/-- Two paths go apart right below the root. -/
def PartAtRoot (p q : Path) : Prop :=
  ∀ c, [.root, c] <+: p.components → ¬ [.root, c] <+: q.components

/-- Two components start a path if its first name is the second of them. -/
theorem root_isPrefix_iff {ns : List Name} {c : Component} :
    [.root, c] <+: .root :: ns.map Component.step ↔ ∃ n, [n] <+: ns ∧ Component.step n = c := by
  cases ns with
  | nil => simp
  | cons n ns => simp [List.cons_prefix_cons, eq_comm]

namespace Fork

variable (f : Fork target base)

theorem shared_eq_nil_iff : f.shared = [] ↔ PartAtRoot target base := by
  constructor
  · intro hshared c ht hb
    rw [f.target_eq, root_isPrefix_iff] at ht
    rw [f.base_eq, root_isPrefix_iff] at hb
    obtain ⟨n, hahead, hn⟩ := ht
    obtain ⟨m, hbehind, hm⟩ := hb
    obtain rfl := Component.step_injective (hn.trans hm.symm)
    have hlongest := f.longest [n] hbehind hahead
    rw [hshared] at hlongest
    exact absurd hlongest (by simp)
  · intro hpart
    cases hshared : f.shared with
    | nil => rfl
    | cons n ns =>
        have hfirst : ∀ ms, [n] <+: (n :: ns) ++ ms := fun ms => ⟨ns ++ ms, rfl⟩
        refine absurd ?_ (hpart (Component.step n) ?_)
        · rw [f.base_eq, hshared, root_isPrefix_iff]
          exact ⟨n, hfirst f.behind, rfl⟩
        · rw [f.target_eq, hshared, root_isPrefix_iff]
          exact ⟨n, hfirst f.ahead, rfl⟩

theorem up_mem_behind_iff (h : ∀ n ∈ f.shared, n ≠ Name.up) :
    Name.up ∈ f.behind ↔ .up ∈ base.components := by
  have hmem : ∀ ns : List Name, .up ∈ ns.map Component.step ↔ Name.up ∈ ns := fun ns => by
    rw [← Component.step_up, List.mem_map_of_injective Component.step_injective]
  have hnot : Name.up ∉ f.shared := fun hup => h _ hup rfl
  rw [f.base_eq, List.mem_cons, hmem, List.mem_append]
  simp [hnot]

theorem isStep_map_reread : ∀ n ∈ f.ahead.map Utf8.reread, Name.IsStep n :=
  Path.isStep_map_reread f.isStep_ahead

theorem map_reread_steps :
    f.steps.map Utf8.reread = upDown f.behind.length (f.ahead.map Utf8.reread) := by
  have hup : Utf8.reread Name.up = Name.up := Name.reread_eq_up_iff.2 rfl
  rw [steps, upDown, List.map_append, List.map_replicate, hup, upDown]

theorem isValid_way_iff :
    Utf8.isValid (wayOf f.steps).bytes = true ↔ f.ahead.map Utf8.reread = f.ahead := by
  calc Utf8.isValid (wayOf f.steps).bytes = true
      ↔ f.steps.map Utf8.reread = f.steps := isValid_wayOf_iff f.isStep_steps
    _ ↔ upDown f.behind.length (f.ahead.map Utf8.reread) = upDown f.behind.length f.ahead := by
        rw [map_reread_steps, steps]
    _ ↔ f.ahead.map Utf8.reread = f.ahead := by rw [upDown, upDown, List.append_right_inj]

/-- What the text of the way leads to decides what it names. -/
theorem names_iff : base.Names (wayOf f.steps).display target ↔
    (base.join (wayOf (upDown f.behind.length (f.ahead.map Utf8.reread)))).clean
      = target.clean := by
  have hshown : ofString (wayOf f.steps).display
      = wayOf (upDown f.behind.length (f.ahead.map Utf8.reread)) := by
    rw [ofString_display_wayOf, map_reread_steps]
  constructor
  · intro h
    exact hshown ▸ h.leads
  · intro h
    exact ⟨hshown ▸ isAbsolute_wayOf (isStep_upDown f.isStep_map_reread), hshown ▸ h⟩

/-- **When the text of a way names where the way leads**, if that has no `..`: the names ahead are
UTF-8, and the way goes up over no `..`, or over all of its directory. -/
theorem names_way_iff (h : ∀ n ∈ f.shared ++ f.ahead, n ≠ Name.up) :
    base.Names (wayOf f.steps).display target ↔
      Utf8.isValid (wayOf f.steps).bytes = true ∧
        (.up ∉ base.components ∨ PartAtRoot target base) := by
  have hdown : ∀ n ∈ f.ahead.map Utf8.reread, Name.IsStep n ∧ n ≠ Name.up := by
    intro n hn
    obtain ⟨m, hm, rfl⟩ := List.mem_map.1 hn
    exact ⟨(f.isStep_ahead m hm).reread, fun he =>
      h m (List.mem_append_right _ hm) (Name.reread_eq_up_iff.1 he)⟩
  have hshared : ∀ n ∈ f.shared, n ≠ Name.up := fun n hn => h n (List.mem_append_left _ hn)
  calc base.Names (wayOf f.steps).display target
      ↔ (base.join (wayOf (upDown f.behind.length (f.ahead.map Utf8.reread)))).clean
          = target.clean := f.names_iff
    _ ↔ f.ahead.map Utf8.reread = f.ahead ∧ (Name.up ∉ f.behind ∨ f.shared = []) :=
        f.clean_join_upDown_iff h hdown (List.length_map _)
    _ ↔ Utf8.isValid (wayOf f.steps).bytes = true ∧
          (.up ∉ base.components ∨ PartAtRoot target base) := by
        rw [f.isValid_way_iff, f.up_mem_behind_iff hshared, f.shared_eq_nil_iff]

/-- **The text of the way from a directory down one step** names where it leads, however the two are
spelled, if that step is UTF-8. -/
theorem names_child_iff (hbehind : f.behind = []) (hone : f.ahead.length ≤ 1) :
    base.Names (wayOf f.steps).display target ↔ Utf8.isValid (wayOf f.steps).bytes = true := by
  have hbase : base.components = .root :: f.shared.map Component.step := by
    rw [f.base_eq, hbehind, List.append_nil]
  have hshared : ∀ n ∈ f.shared, n.IsStep := fun n hn =>
    f.isStep_base n (List.mem_append_left _ hn)
  have htarget : target.clean = Anchor.root.spell
      (f.ahead.foldl advance (f.shared.foldl advance [])).reverse := by
    rw [clean_of_route f.isStep_target (route_of_components f.target_eq), List.foldl_append]
  rw [f.names_iff, f.isValid_way_iff, hbehind, htarget]
  generalize hdown : f.ahead.map Utf8.reread = down
  have hsteps : ∀ n ∈ down, Name.IsStep n := hdown ▸ f.isStep_map_reread
  show (base.join (wayOf down)).clean = _ ↔ _
  rw [clean_join_steps hshared hbase hsteps (isAbsolute_wayOf hsteps) (route_wayOf hsteps)]
  refine ⟨fun heq => ?_, fun heq => by rw [heq]⟩
  have hdir := @isStep_foldl_advance f.shared [] hshared (by simp)
  have hreached : ∀ n ∈ f.shared.foldl advance [], n.IsStep := fun n hn =>
    hdir n (List.mem_reverse.2 hn)
  have hnames := List.reverse_inj.1 (spell_injective (isStep_foldl_advance hsteps hreached)
    (isStep_foldl_advance f.isStep_ahead hreached) heq)
  rw [← hdown] at hnames ⊢
  cases hahead : f.ahead with
  | nil => rfl
  | cons n ns =>
      rw [hahead] at hone hnames
      obtain rfl : ns = [] := List.eq_nil_of_length_eq_zero (by simpa using hone)
      rw [List.map_singleton, (advance_reread_iff n _).1 hnames]

end Fork

end Path

namespace SourceMap

open Stylesheet.Path (exists_fork wayOf)

variable {entry : Path} {source : String}

/-- A source that stands in its own URL is named as the entry is. -/
theorem relativeSource_of_dataMark (h : entry.isAbsolute = true)
    (hdata : dataMark <+: source.toList) :
    ∃ way, entry.relativeTo? entry.parentOrSelf = some way ∧
      (entry.parentOrSelf.Names (relativeSource source entry) entry ↔
        Utf8.isValid way.bytes = true) := by
  obtain ⟨f, hway⟩ := exists_fork h (Path.isAbsolute_parentOrSelf h)
  have hpath : sourcePath source entry = entry := by
    rw [sourcePath, if_pos (List.isPrefixOf_iff_prefix.2 hdata)]
  have htext : relativeSource source entry = (wayOf f.steps).display := by
    simp only [relativeSource, hpath, hway, Option.getD_some]
  -- the directory is all shared, and leaves at most the last step
  have hpre := entry.parentOrSelf_isPrefix
  have hlength := Path.length_components_le_parentOrSelf h
  rw [f.base_eq, f.target_eq] at hpre hlength
  have hshared : f.shared ++ f.behind <+: f.shared ++ f.ahead :=
    (List.prefix_map_iff_of_injective Component.step_injective).1 (List.cons_prefix_cons.1 hpre).2
  have hlongest := f.longest _ List.prefix_rfl hshared
  simp only [List.length_cons, List.length_map, List.length_append] at hlength hlongest
  have hbehind : f.behind = [] := List.eq_nil_of_length_eq_zero (by omega)
  refine ⟨_, hway, ?_⟩
  rw [htext]
  exact f.names_child_iff hbehind (by omega)

/-- A source that is the URL of a path is named by its way from the directory. -/
theorem relativeSource_of_url (h : entry.isAbsolute = true) {t : Path} {u : Url}
    (hu : Url.ofFilePath? t = some u) :
    ∃ p way, (Url.parse u.text).toOption >>= Url.toFilePath? = some p ∧
      (.up ∉ t.components ∨ (∀ n, .name n ∈ t.components → Url.isDriveName n = false) →
        p.clean = t.clean) ∧
      p.relativeTo? entry.parentOrSelf = some way ∧
      ∀ q : Path, q.clean = p.clean →
        (entry.parentOrSelf.Names (relativeSource u.text entry) q ↔
          Utf8.isValid way.bytes = true ∧
            (.up ∉ entry.parentOrSelf.components ∨ p.PartAtRoot entry.parentOrSelf)) := by
  obtain ⟨ns, u', v, p, hns, ht, hu', hparse, hback, hp⟩ :=
    Url.exists_toFilePath? (Url.isAbsolute_of_ofFilePath? hu)
  obtain rfl : u = u' := Option.some.inj (hu.symm.trans hu')
  have hread : (Url.parse u.text).toOption >>= Url.toFilePath? = some p := by
    rw [hparse]
    exact hback
  have hdata : dataMark.isPrefixOf u.text.toList = false := by
    obtain ⟨rest, hrest⟩ := Url.isPrefix_of_ofFilePath? hu
    rw [← hrest]
    rfl
  have hpath : sourcePath u.text entry = p := by
    rw [sourcePath, hdata, if_neg Bool.false_ne_true, hread]
  have habs : p.isAbsolute = true := by
    rw [Path.isAbsolute_eq_head?, hp]
    rfl
  obtain ⟨f, hway⟩ := exists_fork habs (Path.isAbsolute_parentOrSelf h)
  have htext : relativeSource u.text entry = (wayOf f.steps).display := by
    simp only [relativeSource, hpath, hway, Option.getD_some]
  have hnames : ∀ n ∈ f.shared ++ f.ahead, n ≠ Name.up := by
    have hsteps := f.target_eq.symm.trans hp
    rw [List.map_injective_iff.2 Component.step_injective (List.cons.inj hsteps).2]
    exact fun n hn => (Url.isStep_of_mem_climb hns n (List.mem_reverse.1 hn)).2
  refine ⟨p, _, hread, Url.clean_eq_of_climb hns ht hp, hway, fun q hq => ?_⟩
  rw [htext, Path.names_congr hq]
  exact f.names_way_iff hnames

/-- **Sources named from the directory of the entry.** The root of the map is that directory, and its
other parts stay; each source has its text in its place. -/
theorem forEntry_names (m : SourceMap) (h : entry.isAbsolute = true) :
    let dir := entry.parentOrSelf
    ∃ sources, m.forEntry entry = { m with sourceRoot := some dir.display, sources := sources } ∧
      List.Forall₂ (fun source text =>
        (dataMark <+: source.toList → ∃ way, entry.relativeTo? dir = some way ∧
          (dir.Names text entry ↔ Utf8.isValid way.bytes = true)) ∧
        ∀ t u, Url.ofFilePath? t = some u → source = u.text →
          ∃ p way, (Url.parse source).toOption >>= Url.toFilePath? = some p ∧
            (.up ∉ t.components ∨ (∀ n, .name n ∈ t.components → Url.isDriveName n = false) →
              p.clean = t.clean) ∧
            p.relativeTo? dir = some way ∧
            ∀ q : Path, q.clean = p.clean → (dir.Names text q ↔
              Utf8.isValid way.bytes = true ∧ (.up ∉ dir.components ∨ p.PartAtRoot dir)))
        m.sources sources := by
  refine ⟨m.sources.map (relativeSource · entry), rfl, ?_⟩
  rw [List.forall₂_map_right_iff, List.forall₂_same]
  rintro source -
  refine ⟨relativeSource_of_dataMark h, ?_⟩
  rintro t u hu rfl
  exact relativeSource_of_url h hu

/-- A map with one file and one source that is spelled out in its URL. -/
def sharedMap : SourceMap where
  version := 3
  sources := ["file:///app/shared/_b.scss", "data:;charset=utf-8,a%20%7B%7D"]
  mappings := "AAAA"

/-- Both are named right from a directory without dots. -/
theorem forEntry_names_shared :
    (Path.ofString "/app/src/main.scss").isAbsolute = true ∧
      (sharedMap.forEntry (.ofString "/app/src/main.scss")).sources
        = ["../shared/_b.scss", "main.scss"] ∧
      (Path.ofString "/app/src").Names "../shared/_b.scss" (.ofString "/app/shared/_b.scss") ∧
      (Path.ofString "/app/src").Names "main.scss" (.ofString "/app/src/main.scss") := by
  have habs : (Path.ofString "/app/src/main.scss").isAbsolute = true := rfl
  have hdir : (Path.ofString "/app/src/main.scss").parentOrSelf = .ofString "/app/src" := by
    decide +kernel
  have hsources : (sharedMap.forEntry (.ofString "/app/src/main.scss")).sources
      = ["../shared/_b.scss", "main.scss"] := by
    decide +kernel
  obtain ⟨sources, hmap, hall⟩ := forEntry_names sharedMap habs
  have heq : sources = ["../shared/_b.scss", "main.scss"] := by
    rw [← hsources, hmap]
  rw [heq, hdir] at hall
  obtain ⟨⟨-, hfile⟩, hrest⟩ := List.forall₂_cons.1 hall
  obtain ⟨⟨hdata, -⟩, -⟩ := List.forall₂_cons.1 hrest
  refine ⟨habs, hsources, ?_, ?_⟩
  · obtain ⟨u, hu, htext⟩ : ∃ u, Url.ofFilePath? (.ofString "/app/shared/_b.scss") = some u ∧
        u.text = "file:///app/shared/_b.scss" := ⟨_, rfl, by decide +kernel⟩
    obtain ⟨p, way, hread, hclean, hway, hnames⟩ := hfile _ u hu htext.symm
    have hpath : some p = some (.ofString "/app/shared/_b.scss") :=
      hread.symm.trans (by decide +kernel)
    obtain rfl := Option.some.inj hpath
    have hspelled : some way = some (.ofString "../shared/_b.scss") :=
      hway.symm.trans (by decide +kernel)
    obtain rfl := Option.some.inj hspelled
    exact (hnames _ rfl).2 ⟨by decide +kernel, .inl (by decide +kernel)⟩
  · obtain ⟨way, hway, hnames⟩ := hdata (by decide +kernel)
    have hspelled : some way = some (.ofString "main.scss") := hway.symm.trans (by decide +kernel)
    obtain rfl := Option.some.inj hspelled
    exact hnames.2 (by decide +kernel)

/-- From a directory with dots the entry is not found again by its own URL. -/
theorem forEntry_names_dotted :
    let entry := Path.ofString "/p/x/../main.scss"
    let m : SourceMap := { version := 3, sources := ["file:///p/x/../main.scss"], mappings := "" }
    (Url.ofFilePath? entry).map Url.text = some "file:///p/x/../main.scss" ∧
      (m.forEntry entry).sources = ["../../main.scss"] ∧
      ¬ entry.parentOrSelf.Names "../../main.scss" entry ∧
      entry.parentOrSelf.Names "main.scss" entry := by
  refine ⟨by decide +kernel, by decide +kernel, fun h => ?_, ⟨rfl, by decide +kernel⟩⟩
  exact absurd h.leads (by decide +kernel)

end SourceMap

end Stylesheet
