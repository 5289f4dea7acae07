import Mathlib.Data.List.Induction
import Stylesheet.Proofs.Text.Styled
import Stylesheet.Report.Tree

set_option autoImplicit false

/-! # What a report says

A report is read line by line. Each entry has a block of lines with a branch for each of its files
but the first and for each import that leads nowhere, and the summary at the end counts what the
blocks show (`tree_faithful`). Colours add nothing to the text but escape sequences.
-/

namespace Stylesheet

namespace Dependency.ScanResult

/-- With one entry more, it is the largest if it is not smaller than the largest before. -/
theorem largest?_concat (root : Path) (es : List EntryDeps) (e : EntryDeps) (n : Nat) :
    largest? ⟨root, es ++ [e], n⟩ = match largest? ⟨root, es, n⟩ with
      | some b => if b.files.length ≤ e.files.length then some e else some b
      | none => some e := by
  rw [largest?, List.foldl_append]
  rfl

theorem largest?_eq_none_iff {r : ScanResult} : r.largest? = none ↔ r.entries = [] := by
  obtain ⟨root, es, n⟩ := r
  rcases es.eq_nil_or_concat' with rfl | ⟨es, e, rfl⟩
  · simp [largest?]
  · rw [largest?_concat]
    cases largest? ⟨root, es, n⟩ with
    | none => simp
    | some b => by_cases h : b.files.length ≤ e.files.length <;> simp [h]

/-- **The largest entry** is one of the entries, and none has more files. -/
theorem largest?_spec {r : ScanResult} {e : EntryDeps} (h : r.largest? = some e) :
    e ∈ r.entries ∧ ∀ e' ∈ r.entries, e'.files.length ≤ e.files.length := by
  obtain ⟨root, es, n⟩ := r
  dsimp only
  -- the search goes through the entries from the front, so the last of them decides last
  induction es using List.reverseRecOn generalizing e with
  | nil => cases h
  | append_singleton es last ih =>
      rw [largest?_concat] at h
      rw [List.forall_mem_append, List.forall_mem_singleton]
      cases hbefore : largest? ⟨root, es, n⟩ with
      | none =>
          have hes : es = [] := largest?_eq_none_iff.1 hbefore
          rw [hbefore] at h
          obtain rfl := Option.some.inj h
          simp [hes]
      | some b =>
          obtain ⟨hmem, hmax⟩ := ih hbefore
          rw [hbefore] at h
          dsimp only at h
          split at h
          · next hle =>
              obtain rfl := Option.some.inj h
              exact ⟨by simp, fun e' he' => (hmax e' he').trans hle, le_rfl⟩
          · next hle =>
              obtain rfl := Option.some.inj h
              exact ⟨by simp [hmem], hmax, by omega⟩

end Dependency.ScanResult

namespace Report

open Text Dependency

/-! ## The lines of a report -/

structure Block where
  header : String
  files : List String
  missing : List String

namespace Block

def branches (b : Block) : List String := b.files ++ b.missing

/-- The lines of a block. The last branch, and only this one, is drawn as the last. -/
def lines (b : Block) : List String :=
  b.header ::
    b.branches.mapIdx (fun i text =>
      (if i + 1 = b.branches.length then "└──" else "├──") ++ "  " ++ text) ++ [""]

def ofEntry (root : Path) (e : EntryDeps) : Block where
  header := root.displayFrom e.entry ++ " (" ++ toString e.files.length ++ " files)"
  files := (e.files.drop 1).map root.displayFrom
  missing := e.unresolved.map fun u =>
    "✗ " ++ u.specifier ++ " (" ++ u.reason.getD "no matching file" ++ " in "
      ++ root.displayFrom u.fromFile ++ ")"

end Block

def ruleLine : String := String.ofList (List.replicate 60 '─')

def summaryHead (entries filesAnalyzed : Nat) : List String :=
  [ruleLine, "Summary", "  Entries: " ++ toString entries,
    "  Stylesheets analyzed: " ++ toString filesAnalyzed]

def largestLine (root : Path) (e : EntryDeps) : String :=
  "  Largest entry: " ++ toString e.files.length ++ " files - " ++ root.displayFrom e.entry

def unresolvedLine (count : Nat) : String := "  Unresolved imports: " ++ toString count

/-- The texts that the block of an entry shows, besides its own words and numbers. -/
def displayed (root : Path) (e : EntryDeps) : List String :=
  root.displayFrom e.entry :: ((e.files.drop 1).map root.displayFrom ++
    e.unresolved.flatMap fun u => u.specifier :: root.displayFrom u.fromFile :: u.reason.toList)

/-- A text without escape characters, on one line. -/
def IsPlain (text : List Char) : Prop := '\x1b' ∉ text ∧ '\n' ∉ text

instance (text : List Char) : Decidable (IsPlain text) := inferInstanceAs (Decidable (_ ∧ _))

variable {root : Path} {e : EntryDeps} {r : ScanResult}

/-! ## The text of a line -/

/-- The last branch is the one that as many stand up to as there are. -/
theorem map_branches (ls : List Line) :
    (branches ls).map (renderSegments false) = ls.mapIdx fun i l =>
      (if i + 1 = ls.length then "└──" else "├──").toList ++ "  ".toList
        ++ renderSegments false l := by
  induction ls with
  | nil => rfl
  | cons l rest ih =>
      -- a branch is drawn by whether others follow it
      cases rest with
      | nil => simp [branches, renderSegments, Segment.text]
      | cons m rest =>
          have hcons : branches (l :: m :: rest)
              = (.styled .dimmed "├──" :: .plain "  " :: l) :: branches (m :: rest) := rfl
          rw [hcons, List.map_cons, List.mapIdx_cons, ih]
          refine congrArg₂ List.cons ?_ ?_
          · simp [renderSegments, Segment.text]
          · simp

theorem map_leaves (root : Path) (e : EntryDeps) :
    (leaves root e).map (renderSegments false)
      = (Block.ofEntry root e).branches.map String.toList := by
  simp [leaves, dependencies, missing, Block.branches, Block.ofEntry, renderSegments, Segment.text,
    Function.comp_def]

/-- The lines of a block are those of its entry. -/
theorem map_block (root : Path) (e : EntryDeps) :
    (block root e).map (renderSegments false) = (Block.ofEntry root e).lines.map String.toList := by
  have hleaves := map_leaves root e
  have hlength : (leaves root e).length = (Block.ofEntry root e).branches.length := by
    simpa using congrArg List.length hleaves
  have hheader : renderSegments false (header root e)
      = (Block.ofEntry root e).header.toList := by
    simp [header, number, Block.ofEntry, renderSegments, Segment.text]
  have hbranches : (branches (leaves root e)).map (renderSegments false)
      = ((Block.ofEntry root e).branches.mapIdx fun i text =>
          (if i + 1 = (Block.ofEntry root e).branches.length then "└──" else "├──")
            ++ "  " ++ text).map String.toList := by
    -- the marks go by the place alone, so the lines are compared place by place
    rw [map_branches, hlength]
    refine List.ext_getElem? fun i => ?_
    have hleaf := congrArg (·[i]?) hleaves
    simp only [List.getElem?_map] at hleaf
    rw [List.getElem?_mapIdx, List.getElem?_map, List.getElem?_mapIdx, Option.map_map]
    generalize (if i + 1 = (Block.ofEntry root e).branches.length then "└──" else "├──") = mark
    calc (leaves root e)[i]?.map (fun l => mark.toList ++ "  ".toList ++ renderSegments false l)
        = ((leaves root e)[i]?.map (renderSegments false)).map
            (fun text => mark.toList ++ "  ".toList ++ text) := by
          rw [Option.map_map]
          rfl
      _ = (Block.ofEntry root e).branches[i]?.map
            (String.toList ∘ fun text => mark ++ "  " ++ text) := by
          rw [hleaf, Option.map_map]
          simp [Function.comp_def]
  have hempty : renderSegments false [] = "".toList := rfl
  simp [block, Block.lines, hheader, hbranches, hempty]

/-! ## Plain texts -/

theorem IsPlain.append {a b : List Char} (ha : IsPlain a) (hb : IsPlain b) : IsPlain (a ++ b) := by
  simpa [IsPlain, ha.1, ha.2, hb.1] using hb.2

theorem isPlain_toString (n : Nat) : IsPlain (toString n).toList := by
  have hdigits : ∀ c ∈ (toString n).toList, c.isDigit = true := by
    intro c hc
    have hc' : c ∈ Nat.toDigits 10 n := by simpa using hc
    exact Nat.isDigit_of_mem_toDigits (by decide) (by decide) hc'
  exact ⟨fun h => absurd (hdigits _ h) (by decide), fun h => absurd (hdigits _ h) (by decide)⟩

def Line.IsPlain (l : Line) : Prop := ∀ s ∈ l, Report.IsPlain s.text

theorem isPlain_branches {ls : List Line} (h : ∀ l ∈ ls, Line.IsPlain l) :
    ∀ l ∈ branches ls, Line.IsPlain l := by
  have hmark : ∀ mark ∈ ["└──", "├──"], ∀ l ∈ ls,
      Line.IsPlain (.styled .dimmed mark :: .plain "  " :: l) := by
    intro mark hmark l hl
    have hmarks : ∀ mark ∈ ["└──", "├──"], IsPlain mark.toList := by decide
    have hgap : IsPlain "  ".toList := by decide
    exact List.forall_mem_cons.2 ⟨hmarks mark hmark, List.forall_mem_cons.2 ⟨hgap, h l hl⟩⟩
  induction ls with
  | nil => simp [branches]
  | cons l rest ih =>
      cases rest with
      | nil => exact List.forall_mem_singleton.2 (hmark _ (by simp) l (by simp))
      | cons m rest =>
          refine List.forall_mem_cons.2 ⟨hmark _ (by simp) l (by simp), ?_⟩
          exact ih (fun k hk => h k (List.mem_cons_of_mem l hk))
            fun mark hm k hk => hmark mark hm k (List.mem_cons_of_mem l hk)

theorem isPlain_header (h : IsPlain (root.displayFrom e.entry).toList) :
    Line.IsPlain (header root e) := by
  have hopen : IsPlain " (".toList := by decide
  have hclose : IsPlain " files)".toList := by decide
  simp only [Line.IsPlain, header, number, List.forall_mem_cons]
  exact ⟨h, hopen, isPlain_toString _, hclose, by simp⟩

theorem isPlain_missing {u : Unresolved} (hspecifier : IsPlain u.specifier.toList)
    (hreason : ∀ t ∈ u.reason, IsPlain t.toList)
    (hfile : IsPlain (root.displayFrom u.fromFile).toList) : Line.IsPlain (missing root u) := by
  have hmark : IsPlain "✗".toList := by decide
  have hspace : IsPlain " ".toList := by decide
  have hgiven : IsPlain (u.reason.getD "no matching file").toList := by
    cases hu : u.reason with
    | none => exact (by decide : IsPlain "no matching file".toList)
    | some t => exact hreason t hu
  have htail : IsPlain (" (" ++ u.reason.getD "no matching file" ++ " in "
      ++ root.displayFrom u.fromFile ++ ")").toList := by
    simp only [String.toList_append]
    exact (((IsPlain.append (by decide) hgiven).append (by decide)).append hfile).append (by decide)
  simp only [Line.IsPlain, missing, List.forall_mem_cons]
  exact ⟨hmark, hspace, hspecifier, htail, by simp⟩

theorem isPlain_block (h : ∀ t ∈ displayed root e, IsPlain t.toList) :
    ∀ l ∈ block root e, Line.IsPlain l := by
  rw [displayed, List.forall_mem_cons, List.forall_mem_append] at h
  obtain ⟨hentry, hfiles, hmissing⟩ := h
  have hleaves : ∀ l ∈ leaves root e, Line.IsPlain l := by
    intro l hl
    rcases List.mem_append.1 hl with hl | hl
    · obtain ⟨p, hp, rfl⟩ := List.mem_map.1 hl
      exact List.forall_mem_singleton.2 (hfiles _ (List.mem_map_of_mem hp))
    · obtain ⟨u, hu, rfl⟩ := List.mem_map.1 hl
      have htexts : ∀ t ∈ u.specifier :: root.displayFrom u.fromFile :: u.reason.toList,
          IsPlain t.toList := fun t ht => hmissing t (List.mem_flatMap.2 ⟨u, hu, ht⟩)
      rw [List.forall_mem_cons, List.forall_mem_cons] at htexts
      obtain ⟨hspecifier, hfile, hreason⟩ := htexts
      exact isPlain_missing hspecifier (fun t ht => hreason t (Option.mem_toList.2 ht)) hfile
  intro l hl
  rcases List.mem_append.1 hl with hl | hl
  · exact List.forall_mem_cons.2 ⟨isPlain_header hentry, isPlain_branches hleaves⟩ l hl
  · obtain rfl := List.mem_singleton.1 hl
    simp [Line.IsPlain]

theorem isPlain_summary (h : ∀ e ∈ r.entries, IsPlain (root.displayFrom e.entry).toList) :
    ∀ l ∈ summary root r, Line.IsPlain l := by
  have hdash : ∀ c ∈ ruleLine.toList, c = '─' := by
    unfold ruleLine
    rw [String.toList_ofList]
    exact fun c hc => List.eq_of_mem_replicate hc
  have hrule : IsPlain ruleLine.toList :=
    ⟨fun h => absurd (hdash _ h) (by decide), fun h => absurd (hdash _ h) (by decide)⟩
  have hwords : ∀ t ∈ ["Summary", "  Entries: ", "  Stylesheets analyzed: ", "  Largest entry: ",
      " files - ", "  Unresolved imports: "], IsPlain t.toList := by simp [IsPlain]
  simp only [List.forall_mem_cons] at hwords
  obtain ⟨hsummary, hentries, hanalyzed, hlargest, hfiles, hunresolved, -⟩ := hwords
  have hnumber : ∀ style n, IsPlain (number style n).text := fun _ n => isPlain_toString n
  intro l hl
  rw [summary, List.mem_append, List.mem_append] at hl
  rcases hl with (hl | hl) | hl
  · simp only [List.mem_cons, List.not_mem_nil, or_false] at hl
    rcases hl with rfl | rfl | rfl | rfl
    · exact List.forall_mem_singleton.2 hrule
    · exact List.forall_mem_singleton.2 hsummary
    · exact List.forall_mem_cons.2 ⟨hentries, List.forall_mem_singleton.2 (hnumber _ _)⟩
    · exact List.forall_mem_cons.2 ⟨hanalyzed, List.forall_mem_singleton.2 (hnumber _ _)⟩
  · cases hmost : r.largest? with
    | none => simp [hmost] at hl
    | some e =>
        rw [hmost] at hl
        obtain rfl := List.mem_singleton.1 hl
        have hentry := h e (ScanResult.largest?_spec hmost).1
        simp only [Line.IsPlain, List.forall_mem_cons]
        exact ⟨hlargest, hnumber _ _, hfiles, hentry, by simp⟩
  · split at hl
    · obtain rfl := List.mem_singleton.1 hl
      exact List.forall_mem_cons.2 ⟨hunresolved, List.forall_mem_singleton.2 (hnumber _ _)⟩
    · cases hl

/-- Plain texts make plain lines. -/
theorem isPlain_tree (h : ∀ e ∈ r.entries, ∀ t ∈ displayed root e, IsPlain t.toList) :
    ∀ l ∈ tree root r, Line.IsPlain l := by
  rw [tree, List.forall_mem_append]
  constructor
  · intro l hl
    obtain ⟨e, he, hl⟩ := List.mem_flatMap.1 hl
    exact isPlain_block (h e he) l hl
  · exact isPlain_summary fun e he => h e he _ List.mem_cons_self

/-! ## The whole report -/

theorem map_summary (root : Path) (r : ScanResult) :
    (summary root r).map (renderSegments false)
      = (summaryHead r.entries.length r.filesAnalyzed
          ++ (r.largest?.map (largestLine root)).toList
          ++ if r.hasUnresolved then [unresolvedLine r.countUnresolved] else []).map
            String.toList := by
  have hrule : renderSegments false rule = ruleLine.toList := by
    unfold ruleLine
    rw [rule, renderSegments_cons, renderSegments_nil, Segment.text, List.append_nil]
  have hhead : ∀ entries analyzed : Nat,
      [rule, [.styled .bold "Summary"],
        [.plain "  Entries: ", number (.boldColour .cyan) entries],
        [.plain "  Stylesheets analyzed: ", number (.colour .cyan) analyzed]].map
          (renderSegments false)
        = (summaryHead entries analyzed).map String.toList := by
    intro entries analyzed
    simp only [hrule, number, summaryHead, List.map_cons, List.map_nil, renderSegments_cons,
      renderSegments_nil, Segment.text, String.toList_append, List.append_nil]
  have hlargest : ∀ e : EntryDeps, renderSegments false
      [.plain "  Largest entry: ", number (.colour .yellow) e.files.length, .plain " files - ",
        .styled (.colour .blue) (root.displayFrom e.entry)] = (largestLine root e).toList := by
    intro e
    unfold largestLine
    simp only [number, renderSegments_cons, renderSegments_nil, Segment.text,
      String.toList_append, List.append_nil, List.append_assoc]
  have hunresolved : ∀ n : Nat, renderSegments false
      [.plain "  Unresolved imports: ", number (.boldColour .red) n]
        = (unresolvedLine n).toList := by
    intro n
    unfold unresolvedLine
    simp only [number, renderSegments_cons, renderSegments_nil, Segment.text,
      String.toList_append, List.append_nil]
  rw [summary, List.map_append, List.map_append, List.map_append, List.map_append]
  refine congrArg₂ (· ++ ·) (congrArg₂ (· ++ ·) (hhead _ _) ?_) ?_
  · cases r.largest? with
    | none => rfl
    | some e => exact congrArg (fun line => [line]) (hlargest e)
  · have hiff := ScanResult.hasUnresolved_iff_countUnresolved r
    by_cases h : r.hasUnresolved = true
    · rw [if_pos (hiff.1 h), if_pos h]
      exact congrArg (fun line => [line]) (hunresolved r.countUnresolved)
    · rw [if_neg fun hcount => h (hiff.2 hcount), if_neg h]
      rfl

/-- What the blocks show as missing is what leads nowhere. -/
theorem length_missing (root : Path) (r : ScanResult) :
    ((r.entries.map (Block.ofEntry root)).flatMap Block.missing).length = r.countUnresolved := by
  simp [ScanResult.countUnresolved, List.length_flatMap, Block.ofEntry, Function.comp_def]

/-- **The report is faithful.** Without its escape sequences the coloured report is the uncoloured
one. This has the lines of one block for each entry, in order, and then the summary. The summary
counts the blocks, names an entry that no other has more files than, if there is an entry, and
counts the imports that the blocks show as missing, if some import leads nowhere. -/
theorem tree_faithful (root : Path) (r : ScanResult)
    (hplain : ∀ e ∈ r.entries, ∀ t ∈ displayed root e, IsPlain t.toList) :
    let text := renderLines false (tree root r)
    let blocks := r.entries.map (Block.ofEntry root)
    withoutStyles (renderLines true (tree root r)) = text ∧
      ∃ largest unresolved : List String,
        pieces (· == '\n') text
          = (blocks.flatMap Block.lines ++ summaryHead blocks.length r.filesAnalyzed
              ++ largest ++ unresolved ++ [""]).map String.toList ∧
        (if r.entries = [] then largest = []
          else ∃ e ∈ r.entries, (∀ e' ∈ r.entries, e'.files.length ≤ e.files.length) ∧
            largest = [largestLine root e]) ∧
        unresolved =
          if r.hasUnresolved then [unresolvedLine (blocks.flatMap Block.missing).length]
          else [] := by
  intro text blocks
  have hlines := isPlain_tree hplain
  have hlength : r.entries.length = blocks.length := (List.length_map _).symm
  -- no text of the report holds an escape character or a line end of its own
  refine ⟨withoutStyles_renderLines fun l hl s hs => (hlines l hl s hs).1,
    (r.largest?.map (largestLine root)).toList,
    if r.hasUnresolved then [unresolvedLine r.countUnresolved] else [], ?_, ?_, ?_⟩
  · have hblocks : (r.entries.flatMap (block root)).map (renderSegments false)
        = (blocks.flatMap Block.lines).map String.toList := by
      simp [blocks, List.map_flatMap, List.flatMap_map, map_block]
    calc pieces (· == '\n') text
        = (tree root r).map (renderSegments false) ++ [[]] :=
          pieces_renderLines fun l hl s hs => (hlines l hl s hs).2
      _ = _ := by
          rw [tree, List.map_append, hblocks, map_summary, hlength]
          simp
  · cases hlargest : r.largest? with
    | none => rw [if_pos (ScanResult.largest?_eq_none_iff.1 hlargest)]; rfl
    | some e =>
        obtain ⟨hmem, hmax⟩ := ScanResult.largest?_spec hlargest
        rw [if_neg (List.ne_nil_of_mem hmem)]
        exact ⟨e, hmem, hmax, rfl⟩
  · rw [length_missing]

/-- What a scan of a shop with one entry found. -/
def shopResult : ScanResult where
  root := .ofString "/shop"
  entries :=
    [{ entry := .ofString "/shop/site.scss"
       files := [.ofString "/shop/site.scss", .ofString "/shop/_theme.scss"]
       unresolved :=
        [{ specifier := "gone", fromFile := .ofString "/shop/_theme.scss", reason := none }] }]
  filesAnalyzed := 2

theorem displayFrom_shop :
    let root : Path := .ofString "/shop"
    root.displayFrom (.ofString "/shop/site.scss") = "site.scss" ∧
      root.displayFrom (.ofString "/shop/_theme.scss") = "_theme.scss" := by
  decide +kernel

/-- The shop's entry has two branches, of which the second is the last. -/
theorem tree_faithful_shop :
    let root : Path := .ofString "/shop"
    let text := renderLines false (tree root shopResult)
    (∀ e ∈ shopResult.entries, ∀ t ∈ displayed root e, IsPlain t.toList) ∧
      withoutStyles (renderLines true (tree root shopResult)) = text ∧
      pieces (· == '\n') text =
        ["site.scss (2 files)", "├──  _theme.scss", "└──  ✗ gone (no matching file in _theme.scss)",
          "", ruleLine, "Summary", "  Entries: 1",
          "  Stylesheets analyzed: 2", "  Largest entry: 2 files - site.scss",
          "  Unresolved imports: 1", ""].map String.toList := by
  intro root text
  obtain ⟨hentry, htheme⟩ := displayFrom_shop
  have hplain : ∀ e ∈ shopResult.entries, ∀ t ∈ displayed root e, IsPlain t.toList := by
    simp [root, shopResult, displayed, hentry, htheme, IsPlain]
  obtain ⟨hcolours, largest, unresolved, hlines, hlargest, hunresolved⟩ :=
    tree_faithful root shopResult hplain
  refine ⟨hplain, hcolours, ?_⟩
  rw [if_neg (by decide)] at hlargest
  obtain ⟨e, he, -, rfl⟩ := hlargest
  obtain rfl := List.mem_singleton.1 he
  rw [hlines, hunresolved]
  exact congrArg (List.map String.toList) (by decide +kernel)

end Report

end Stylesheet
