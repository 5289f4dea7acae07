import Stylesheet.Proofs.SourceMap.Located
import Stylesheet.Proofs.Url.FileHost

set_option autoImplicit false

/-! # Source maps that are for their entry already

What `forEntry` writes for a source is a way from the directory of the entry. Read from that
directory the way leads to a path to which it is the way, however the directory is spelled
(`relativeTo?_join_wayOf`), and the text of a way is read as text, not as a URL, if there is no
colon in it. So `forEntry` leaves alone what it has written (`relativeSource_display_wayOf`), and a second
time it changes nothing (`forEntry_forEntry`).
-/

namespace Stylesheet

def Name.colon : UInt8 := 0x3A

namespace Path

variable {base p q : Path} {ns : List Name}

/-! ## A way from a directory, read from there -/

theorem commonLength_append (as bs : List Component) :
    commonLength (as ++ bs) as = as.length := by
  induction as with
  | nil => cases bs <;> rfl
  | cons a as ih => rw [List.cons_append, commonLength, if_pos rfl, ih, List.length_cons]

/-- **Whatever way is read from a directory**, it is the way from there to where it leads, also if
the directory is not clean. -/
theorem relativeTo?_join_wayOf (hb : base.isAbsolute = true) (hns : ∀ n ∈ ns, n.IsStep) :
    (base.join (wayOf ns)).relativeTo? base = some (wayOf ns) := by
  obtain ⟨bs, hbs, hbase⟩ := exists_steps_of_isAbsolute hb
  have habs : (base.join (wayOf ns)).isAbsolute = true := by
    rw [isAbsolute_join, hb, Bool.true_or]
  obtain ⟨ts, hts, htarget⟩ := exists_steps_of_isAbsolute habs
  -- what is read goes on where the directory ends, and takes nothing of it back
  obtain rfl : ts = bs ++ ns := by
    have hroute := @route_join base _ (isAbsolute_wayOf hns)
    rw [route_of_components htarget, route_of_components hbase, route_wayOf hns, List.cons_append,
      ← List.map_append] at hroute
    exact List.map_injective_iff.2 Component.step_injective (List.cons.inj hroute).2
  have hcommon : commonLength ((bs ++ ns).map Component.step) (bs.map Component.step)
      = bs.length := by
    rw [List.map_append, commonLength_append, List.length_map]
  rw [relativeTo?_of_steps hts htarget hbase hcommon, List.drop_length, List.drop_left]
  rfl

/-- A way is shown like the way that is read off what is shown of it. -/
theorem display_wayOf_map_reread (ns : List Name) :
    (wayOf (ns.map Utf8.reread)).display = (wayOf ns).display := by
  rw [← ofString_display_wayOf]
  exact Utf8.toStringLossy_ofString _

/-! ## Paths without a colon -/

/-- No name of the path holds a colon. -/
def LacksColon (p : Path) : Prop := ∀ n, .name n ∈ p.components → Name.colon ∉ n

theorem name_mem_route_iff {n : Name} : .name n ∈ p.route ↔ .name n ∈ p.components := by
  simp [route]

/-- The names of a path stand in its text. -/
theorem mem_bytes_of_mem_name {n : Name} {b : UInt8} (hn : .name n ∈ p.components) (hb : b ∈ n) :
    b ∈ p.bytes := by
  rw [← name_mem_route_iff, route_eq, List.mem_append] at hn
  rcases hn with hroot | hname
  · split at hroot <;> simp at hroot
  · obtain ⟨m, hm, hpiece⟩ := List.mem_filterMap.1 hname
    obtain rfl : m = n := by
      unfold Component.ofPiece? at hpiece
      split at hpiece
      · cases hpiece
      · split at hpiece
        · cases hpiece
        · exact Component.name.inj (Option.some.inj hpiece)
    exact Text.mem_of_mem_pieces hm hb

theorem lacksColon_ofString {text : String} (h : ':' ∉ text.toList) :
    (ofString text).LacksColon :=
  fun _ hn hcolon => h (Utf8.mem_of_mem_encode (by decide) (mem_bytes_of_mem_name hn hcolon))

theorem LacksColon.parentOrSelf (h : p.LacksColon) : p.parentOrSelf.LacksColon :=
  fun n hn => h n (p.parentOrSelf_isPrefix.subset hn)

theorem LacksColon.join (hp : p.LacksColon) (hq : q.LacksColon) : (p.join q).LacksColon := by
  intro n hn
  cases hrel : q.isAbsolute with
  | true =>
      rw [join_absolute hrel] at hn
      exact hq n hn
  | false =>
      rw [← name_mem_route_iff, route_join hrel, List.mem_append, name_mem_route_iff,
        name_mem_route_iff] at hn
      exact hn.elim (hp n) (hq n)

/-- What is shown of a way without a colon has none. -/
theorem not_mem_display_wayOf (h : ∀ n ∈ ns, Name.colon ∉ n) :
    ':' ∉ (wayOf ns).display.toList := by
  rw [display, Utf8.toStringLossy, String.toList_ofList]
  intro hmem
  have hbyte : Name.colon ∈ (wayOf ns).bytes := Utf8.mem_of_mem_decodeLossy (by decide) hmem
  rw [wayOf] at hbyte
  split at hbyte
  · exact absurd hbyte (by decide)
  · rcases Text.mem_of_mem_join hbyte with hsep | ⟨n, hn, hcolon⟩
    · exact absurd hsep (by decide)
    · exact h n hn hcolon

end Path

/-- A text without a colon is no URL. -/
theorem Url.toOption_parse_of_not_mem {text : String} (h : ':' ∉ text.toList) :
    (Url.parse text).toOption = none := by
  have hscheme : cutScheme? (significant (Text.trimWhile isControlOrSpace text.toList)) = none := by
    generalize hcs : significant (Text.trimWhile isControlOrSpace text.toList) = cs
    have hcolon : ':' ∉ cs := by
      rw [← hcs]
      exact fun hmem => h (Text.mem_of_mem_trimWhile (List.mem_of_mem_filter hmem))
    unfold cutScheme?
    split
    · rfl
    · split
      · split
        · next hrest =>
            -- a scheme ends with a colon of the text
            exact absurd ((List.dropWhile_sublist _).subset (hrest ▸ List.mem_cons_self)) hcolon
        · rfl
      · rfl
  rw [Url.parse, parseChars, hscheme]
  rfl

namespace SourceMap

open Stylesheet.Path (exists_fork wayOf)

variable {entry : Path} {source : String}

/-! ## Sources -/

/-- A source that stands in its own URL, that is the URL of a file on this machine, or that is the
text of a path, where a path has no colon. -/
inductive Plain (source : String) : Prop
  | data (h : dataMark <+: source.toList)
  | file {u : Url} (hparse : Url.parse source = .ok u) (hscheme : u.scheme = "file".toList)
      (hhost : ∀ a, u.authority = some a → a.host = .domain [])
      (hpath : ∀ p, u.toFilePath? = some p → p.LacksColon)
  | text (h : ':' ∉ source.toList)

/-- A text without a colon is a path from the directory of the entry. -/
theorem sourcePath_of_not_mem (h : ':' ∉ source.toList) (entry : Path) :
    sourcePath source entry = entry.parentOrSelf.join (.ofString source) := by
  have hdata : dataMark.isPrefixOf source.toList = false := by
    refine Bool.eq_false_iff.2 fun hpre => h ?_
    exact (List.isPrefixOf_iff_prefix.1 hpre).subset (by decide)
  rw [sourcePath, hdata, if_neg Bool.false_ne_true, Url.toOption_parse_of_not_mem h]
  rfl

/-- A plain source has an absolute path without a colon, if the entry has one. -/
theorem Plain.sourcePath (h : Plain source) (hentry : entry.isAbsolute = true)
    (hcolon : entry.LacksColon) :
    (sourcePath source entry).isAbsolute = true ∧ (sourcePath source entry).LacksColon := by
  cases h with
  | data h =>
      rw [sourcePath_of_dataMark (List.isPrefixOf_iff_prefix.2 h)]
      exact ⟨hentry, hcolon⟩
  | file hparse hscheme hhost hpath =>
      obtain ⟨p, hp⟩ := Url.exists_toFilePath?_of_file hparse hscheme hhost
      by_cases hdata : dataMark.isPrefixOf source.toList = true
      · rw [sourcePath_of_dataMark hdata]
        exact ⟨hentry, hcolon⟩
      · have hread : (Url.parse source).toOption >>= Url.toFilePath? = some p := by
          rw [hparse]
          exact hp
        rw [SourceMap.sourcePath, if_neg hdata, hread]
        exact ⟨Url.isAbsolute_of_toFilePath? hp, hpath p hp⟩
  | text h =>
      rw [sourcePath_of_not_mem h]
      refine ⟨?_, hcolon.parentOrSelf.join (Path.lacksColon_ofString h)⟩
      rw [Path.isAbsolute_join, Path.isAbsolute_parentOrSelf hentry, Bool.true_or]

/-- A plain source is written as the text of a way without a colon. -/
theorem Plain.relativeSource (h : Plain source) (hentry : entry.isAbsolute = true)
    (hcolon : entry.LacksColon) :
    ∃ ns : List Name, (∀ n ∈ ns, n.IsStep ∧ Name.colon ∉ n) ∧
      relativeSource source entry = (wayOf ns).display := by
  obtain ⟨habs, hlacks⟩ := h.sourcePath hentry hcolon
  obtain ⟨f, hway⟩ := exists_fork habs (Path.isAbsolute_parentOrSelf hentry)
  refine ⟨f.steps, fun n hn => ⟨f.isStep_steps n hn, ?_⟩, ?_⟩
  · rcases List.mem_append.1 hn with hup | hdown
    · rw [(List.mem_replicate.1 hup).2]
      decide
    · by_cases hup : n = Name.up
      · rw [hup]
        decide
      · refine hlacks n ?_
        rw [f.target_eq, ← Component.step_of_ne hup]
        exact List.mem_cons_of_mem _ (List.mem_map_of_mem (List.mem_append_right _ hdown))
  · simp only [SourceMap.relativeSource, hway, Option.getD_some]

/-- **The text of a way without a colon stays as it is.** -/
theorem relativeSource_display_wayOf {ns : List Name} (hentry : entry.isAbsolute = true)
    (hns : ∀ n ∈ ns, n.IsStep ∧ Name.colon ∉ n) :
    relativeSource (wayOf ns).display entry = (wayOf ns).display := by
  have hsteps := Path.isStep_map_reread fun n hn => (hns n hn).1
  have hpath : sourcePath (wayOf ns).display entry
      = entry.parentOrSelf.join (wayOf (ns.map Utf8.reread)) := by
    rw [sourcePath_of_not_mem (Path.not_mem_display_wayOf fun n hn => (hns n hn).2),
      Path.ofString_display_wayOf]
  have hway := Path.relativeTo?_join_wayOf (Path.isAbsolute_parentOrSelf hentry) hsteps
  simp only [relativeSource, hpath, hway, Option.getD_some]
  exact Path.display_wayOf_map_reread ns

/-- **A map that was made for an entry is for it already**, if its sources are plain and the entry
has no colon. -/
theorem forEntry_forEntry (m : SourceMap) (hentry : entry.isAbsolute = true)
    (hcolon : entry.LacksColon) (hm : ∀ source ∈ m.sources, Plain source) :
    (m.forEntry entry).forEntry entry = m.forEntry entry := by
  have hsources : (m.sources.map (relativeSource · entry)).map (relativeSource · entry)
      = m.sources.map (relativeSource · entry) := by
    rw [List.map_map]
    refine List.map_congr_left fun source hsource => ?_
    obtain ⟨ns, hns, htext⟩ := (hm source hsource).relativeSource hentry hcolon
    show relativeSource (relativeSource source entry) entry = relativeSource source entry
    rw [htext, relativeSource_display_wayOf hentry hns]
  simp only [forEntry, hsources]

/-- A map with a source of each kind. -/
def plainMap : SourceMap where
  version := 3
  sources := ["data:,a%20%7B%7D", "file:///p/main.scss", "a/../../b.scss", ""]
  mappings := "AAAA"

/-- In a directory with dots all four are written as ways, and stay. -/
theorem forEntry_forEntry_plain :
    let entry := Path.ofString "/p/x/../main.scss"
    entry.isAbsolute = true ∧ entry.LacksColon ∧ (∀ source ∈ plainMap.sources, Plain source) ∧
      (plainMap.forEntry entry).sources
        = ["main.scss", "../../main.scss", "a/../../b.scss", "."] ∧
      (plainMap.forEntry entry).forEntry entry = plainMap.forEntry entry := by
  intro entry
  have habs : entry.isAbsolute = true := rfl
  have hcolon : entry.LacksColon := Path.lacksColon_ofString (by decide +kernel)
  have hfile : Plain "file:///p/main.scss" := by
    obtain ⟨u, hparse, hscheme, hauthority, hpath⟩ : ∃ u,
        Url.parse "file:///p/main.scss" = .ok u ∧ u.scheme = "file".toList ∧
          u.authority = some Url.noHost ∧ u.toFilePath? = some (.ofString "/p/main.scss") :=
      ⟨⟨"file".toList, some Url.noHost, .segments ["p".toList, "main.scss".toList], none, none⟩,
        by decide +kernel, rfl, rfl, by decide +kernel⟩
    refine .file hparse hscheme (fun a ha => ?_) fun p hp => ?_
    · rw [hauthority] at ha
      obtain rfl := Option.some.inj ha
      rfl
    · rw [hpath] at hp
      obtain rfl := Option.some.inj hp
      exact Path.lacksColon_ofString (by decide +kernel)
  have hplain : ∀ source ∈ plainMap.sources, Plain source := by
    simp only [plainMap, List.forall_mem_cons]
    exact ⟨.data (by decide +kernel), hfile, .text (by decide +kernel), .text (by decide +kernel),
      by simp⟩
  exact ⟨habs, hcolon, hplain, by decide +kernel, forEntry_forEntry plainMap habs hcolon hplain⟩

end SourceMap

end Stylesheet
