import Stylesheet.Proofs.Path.Ancestors
import Stylesheet.Proofs.Path.Rooted
import Stylesheet.Proofs.Url.Segments

set_option autoImplicit false

/-! # URLs of paths with dots

The URL of an absolute path has a segment for a `..` as well. The parser takes it out again, and the
segment in front of it with it, as `clean` does with names. But it keeps a segment that looks like a
drive, and writes one with a colon that becomes the very first (`Climbed.step`). So the text of the
URL leads to the clean path where no drive meets a `..` (`exists_toFilePath?`, `climb_eq`).
-/

namespace Stylesheet.Url

variable {n : Name} {ns : List Name}

/-! ## Names on the way -/

/-- Whether the segment of a name looks like a drive. -/
def isDriveName (n : Name) : Bool := isDrive (segment n)

def withColon (n : Name) : Name := n.take 1 ++ [0x3A]

/-- What was read of a path: the names, the last one first. -/
structure Climbed where
  names : List Name := []
  /-- Whether the segment of the root, which is empty, is still in front. -/
  isLed : Bool := true

/-- What was read after one more step. -/
def Climbed.step (p : Climbed) (n : Name) : Climbed :=
  if n = Name.up then
    match p.names with
    | [] => ⟨[], false⟩
    | m :: ms => if isDriveName m then p else ⟨ms, p.isLed⟩
  else if p.names = [] ∧ p.isLed = false ∧ isDriveName n = true then ⟨[withColon n], false⟩
  else ⟨n :: p.names, p.isLed⟩

/-- The names that steps lead to, the last one first. -/
def climb (ns : List Name) : List Name := (ns.foldl Climbed.step {}).names

theorem encodeByte_length : ∀ n < 256,
    (Percent.encodeByte nameSet (UInt8.ofNat n)).length = 1 ∨
      (Percent.encodeByte nameSet (UInt8.ofNat n)).length = 3 := by
  decide +kernel

/-- A drive with a colon is the segment of a name. -/
theorem take_append_colon (h : isDriveName n = true) :
    (segment n).take 1 ++ [':'] = segment (withColon n) := by
  cases n with
  | nil => cases h
  | cons b n =>
      have hcolon : segment [0x3A] = [':'] := by decide
      have hsplit : segment (withColon (b :: n)) = Percent.encodeByte nameSet b ++ [':'] := by
        rw [← hcolon]
        simp [withColon, segment_cons]
      obtain hone | hthree := encodeByte_length b.toNat b.toNat_lt
      · rw [UInt8.ofNat_toNat] at hone
        rw [hsplit, segment_cons, List.take_append_of_le_length hone.ge,
          List.take_of_length_le hone.le]
      · rw [UInt8.ofNat_toNat] at hthree
        -- what is encoded is too long for a drive
        unfold isDriveName isDrive at h
        split at h
        · next heq =>
            have hlength := congrArg List.length heq
            rw [segment_cons, List.length_append, hthree] at hlength
            simp at hlength
            omega
        · cases h

theorem isStep_withColon (hn : n.IsStep) : (withColon n).IsStep ∧ withColon n ≠ Name.up := by
  obtain ⟨b, n, rfl⟩ := List.exists_cons_of_ne_nil hn.ne_nil
  have hb : b ≠ Path.separator := fun e => hn.no_separator (by simp [e])
  refine ⟨⟨by simp [withColon], by simp [withColon, Name.here], ?_⟩, ?_⟩
  · simpa [withColon, Path.separator] using Ne.symm hb
  · simp [withColon, Name.up, Name.dot]

namespace Climbed

theorem step_up_cons (m : Name) (ms : List Name) (isLed : Bool) :
    step ⟨m :: ms, isLed⟩ Name.up
      = if isDriveName m = true then ⟨m :: ms, isLed⟩ else ⟨ms, isLed⟩ := rfl

theorem step_first (hup : n ≠ Name.up) (hdrive : isDriveName n = true) :
    step ⟨[], false⟩ n = ⟨[withColon n], false⟩ := by
  simp [step, hup, hdrive]

theorem step_down {p : Climbed} (hup : n ≠ Name.up)
    (h : ¬ (p.names = [] ∧ p.isLed = false ∧ isDriveName n = true)) :
    p.step n = ⟨n :: p.names, p.isLed⟩ := by
  rw [step, if_neg hup, if_neg h]

/-- All names that are reached are steps down. -/
theorem isStep_step {p : Climbed} (hp : ∀ m ∈ p.names, m.IsStep ∧ m ≠ Name.up)
    (hn : n.IsStep) : ∀ m ∈ (p.step n).names, m.IsStep ∧ m ≠ Name.up := by
  unfold step
  split
  · split
    · simp
    · next m ms heq =>
        split
        · exact hp
        · exact fun k hk => hp k (heq ▸ List.mem_cons_of_mem m hk)
  · next hup =>
      split
      · exact fun m hm => List.mem_singleton.1 hm ▸ isStep_withColon hn
      · intro m hm
        rcases List.mem_cons.1 hm with rfl | hm
        · exact ⟨hn, hup⟩
        · exact hp m hm

theorem isStep_foldl (hns : ∀ n ∈ ns, n.IsStep) {p : Climbed}
    (hp : ∀ m ∈ p.names, m.IsStep ∧ m ≠ Name.up) :
    ∀ m ∈ (ns.foldl step p).names, m.IsStep ∧ m ≠ Name.up := by
  induction ns generalizing p with
  | nil => exact hp
  | cons n ns ih =>
      exact ih (fun m hm => hns m (by simp [hm])) (p.isStep_step hp (hns n (by simp)))

/-- Where no step is `..`, all of them stay. -/
theorem foldl_names (hns : ∀ n ∈ ns, n ≠ Name.up) (ms : List Name) :
    ns.foldl step ⟨ms, true⟩ = ⟨ns.reverse ++ ms, true⟩ := by
  induction ns generalizing ms with
  | nil => rfl
  | cons n ns ih =>
      have hstep : step ⟨ms, true⟩ n = ⟨n :: ms, true⟩ := step_down (hns n (by simp)) (by simp)
      rw [List.foldl_cons, hstep, ih fun m hm => hns m (by simp [hm])]
      simp

/-- Where nothing looks like a drive, a step is one of `clean`. -/
theorem names_step {p : Climbed} (hp : ∀ m ∈ p.names, isDriveName m = false)
    (hn : isDriveName n = false) : (p.step n).names = Path.advance p.names n := by
  obtain ⟨names, isLed⟩ := p
  by_cases hup : n = Name.up
  · cases names with
    | nil => simp [hup, step, Path.advance]
    | cons m ms =>
        have hm : isDriveName m = false := hp m (by simp)
        simp [hup, step_up_cons, hm, Path.advance]
  · rw [step_down hup (by simp [hn]), Path.advance, if_neg hup]

theorem names_foldl (hns : ∀ n ∈ ns, isDriveName n = false) {p : Climbed}
    (hp : ∀ m ∈ p.names, isDriveName m = false) :
    (ns.foldl step p).names = ns.foldl Path.advance p.names := by
  induction ns generalizing p with
  | nil => rfl
  | cons n ns ih =>
      have hn := hns n (by simp)
      have hstep := names_step hp hn
      have hnext : ∀ m ∈ (p.step n).names, isDriveName m = false := by
        intro m hm
        rw [hstep] at hm
        rcases Path.mem_of_mem_advance hm with hm | ⟨rfl, -⟩
        · exact hp m hm
        · exact hn
      rw [List.foldl_cons, ih (fun m hm => hns m (by simp [hm])) hnext, hstep, List.foldl_cons]

end Climbed

theorem isStep_of_mem_climb (hns : ∀ n ∈ ns, n.IsStep) :
    ∀ m ∈ climb ns, m.IsStep ∧ m ≠ Name.up :=
  Climbed.isStep_foldl hns (by simp)

/-- Where no step looks like a drive or none is `..`, the names are those that `clean` leaves. -/
theorem climb_eq (h : Name.up ∉ ns ∨ ∀ n ∈ ns, isDriveName n = false) :
    climb ns = ns.foldl Path.advance [] := by
  rcases h with hup | hdrive
  · have hnames : ∀ n ∈ ns, n ≠ Name.up := fun n hn he => hup (he ▸ hn)
    rw [climb, Climbed.foldl_names hnames, Path.foldl_advance_names hnames]
  · exact Climbed.names_foldl hdrive (by simp)

/-! ## Reading the segments -/

/-- The empty segment of the root is kept in front. -/
theorem read_lead (left : Nat) (ss : List (List Char)) :
    OpenPath.read .file [] left {} ([] :: ss)
      = OpenPath.read .file [] (left - 1) { segments := [[]] } ss := by
  have hfirst : OpenPath.push .file {} (encodeText pathSet []) (ss = [])
      = { segments := [[]] } := by
    simp [encodeText, Utf8.encode, Percent.encode, OpenPath.push, isDoubleDot, isSingleDot, isDrive]
  rw [OpenPath.read]
  simp only [isBroken, Bool.and_false, Bool.false_eq_true, if_false]
  rw [hfirst]
  rfl

def Climbed.segments (p : Climbed) : List (List Char) :=
  p.names.map segment ++ if p.isLed then [[]] else []

/-- The empty segment behind a `..` that nothing follows. -/
def trail (ns : List Name) : List (List Char) := if ns.getLast? = some Name.up then [[]] else []

theorem startsWithDrive_segment (n : Name) : startsWithDrive (segment n) = isDriveName n := by
  have hinert : ∀ c ∈ (segment n).drop 2, c ≠ '\\' := by
    intro c hc he
    have hmem : '\\' ∈ segment n := List.mem_of_mem_drop (he ▸ hc)
    have hinert := isInert_of_mem_segment hmem
    revert hinert
    decide
  unfold startsWithDrive isDriveName
  rcases hs : segment n with _ | ⟨c, _ | ⟨d, _ | ⟨e, rest⟩⟩⟩
  · rfl
  · rfl
  · simp
  · have he : e ≠ '\\' := hinert e (by simp [hs])
    simp [isDrive, he]

theorem isDoubleDot_up : isDoubleDot (segment Name.up) = true := by decide +kernel

/-- A segment is read as a step. -/
theorem segments_push (hn : n.IsStep) {p : OpenPath} {q : Climbed} (h : p.segments = q.segments)
    (isLast : Bool) :
    (p.push .file (segment n) isLast).segments
      = (if isLast = true ∧ n = Name.up then [[]] else []) ++ (q.step n).segments := by
  obtain ⟨names, isLed⟩ := q
  by_cases hup : n = Name.up
  · subst hup
    have hshorten : shorten (Climbed.segments ⟨names, isLed⟩)
        = (Climbed.step ⟨names, isLed⟩ Name.up).segments := by
      cases names with
      | nil => cases isLed <;> rfl
      | cons m ms =>
          show (if startsWithDrive (segment m) then _ else _) = _
          rw [startsWithDrive_segment, Climbed.step_up_cons, apply_ite Climbed.segments]
          rfl
    rw [OpenPath.push, isDoubleDot_up, if_pos rfl, h, hshorten]
    cases isLast <;> simp
  · obtain ⟨hdot, hdots⟩ := segment_not_dots hn hup
    have hempty : p.segments = [] ↔ names = [] ∧ isLed = false := by
      rw [h]
      cases isLed <;> simp [Climbed.segments]
    rw [OpenPath.push, hdot, hdots]
    simp only [hup, and_false, Bool.false_eq_true, if_false, List.nil_append, decide_true,
      Bool.true_and, Bool.and_eq_true, decide_eq_true_eq, hempty, and_assoc]
    by_cases hdrive : names = [] ∧ isLed = false ∧ isDrive (segment n) = true
    · rw [if_pos hdrive]
      obtain ⟨rfl, rfl, hdrive⟩ := hdrive
      rw [Climbed.step_first hup hdrive, take_append_colon hdrive]
      rfl
    · rw [if_neg hdrive, Climbed.step_down hup hdrive, h]
      rfl

/-- Segments are read as steps. -/
theorem segments_read (hns : ∀ n ∈ ns, n.IsStep) (left : Nat) {p : OpenPath} {q : Climbed}
    (h : p.segments = q.segments) :
    (OpenPath.read .file [] left p (ns.map segment)).segments
      = trail ns ++ (ns.foldl Climbed.step q).segments := by
  induction ns generalizing left p q with
  | nil => exact h
  | cons n ns ih =>
      have hinert : encodeText pathSet (segment n) = segment n :=
        encodeText_inert fun c => isInert_of_mem_segment
      have hwhole : isBroken [] left (segment n) = false := by
        unfold isBroken
        split <;> simp
      rw [List.map_cons, OpenPath.read, hwhole, hinert]
      simp only [Bool.and_false, Bool.false_eq_true, if_false]
      have hpush := segments_push (hns n (by simp)) h (decide (ns.map segment = []))
      cases ns with
      | nil =>
          rw [List.map_nil] at hpush ⊢
          rw [OpenPath.read, hpush]
          simp [trail]
      | cons m ns =>
          rw [ih (fun m hm => hns m (by simp [hm])) _ (by simpa using hpush)]
          simp [trail]

/-! ## The path that the URL leads to -/

theorem exists_dropLeadingEmpty (ss : List (List Char)) :
    ∃ k, dropLeadingEmpty ss = ss.drop k ∧ (∀ s ∈ ss.take k, s = []) ∧
      (ss ≠ [] → dropLeadingEmpty ss ≠ []) := by
  induction ss with
  | nil => exact ⟨0, rfl, by simp, id⟩
  | cons s ss ih =>
      obtain ⟨k, hk, hempty, hne⟩ := ih
      cases ss with
      | nil => exact ⟨0, rfl, by simp, fun _ => by simp [dropLeadingEmpty]⟩
      | cons t ss =>
          by_cases hs : s = []
          · refine ⟨k + 1, ?_, ?_, fun _ => ?_⟩
            · rw [dropLeadingEmpty, if_pos hs, hk, List.drop_succ_cons]
            · simpa [hs] using hempty
            · rw [dropLeadingEmpty, if_pos hs]
              exact hne (List.cons_ne_nil _ _)
          · refine ⟨0, ?_, by simp, fun _ => ?_⟩ <;> simp [dropLeadingEmpty, hs]

/-- Segments that are empty mean nothing. -/
theorem filterMap_drop {ms : List Name} {k : Nat} (h : ∀ s ∈ (ms.map segment).take k, s = []) :
    (ms.drop k).filterMap Component.ofPiece? = ms.filterMap Component.ofPiece? := by
  have hnone : (ms.take k).filterMap Component.ofPiece? = [] := by
    refine List.filterMap_eq_nil_iff.2 fun m hm => ?_
    have hempty : segment m = [] := h _ (by rw [← List.map_take]; exact List.mem_map_of_mem hm)
    have hm : m = [] := by
      by_contra hne
      exact segment_ne_nil hne hempty
    rw [hm]
    rfl
  conv_rhs => rw [← List.take_append_drop k ms, List.filterMap_append, hnone, List.nil_append]

theorem step_names_ne_nil (p : Climbed) (hup : n ≠ Name.up) : (p.step n).names ≠ [] := by
  rw [Climbed.step, if_neg hup]
  split <;> simp

/-- The segments that are read off the text of the URL. -/
theorem readPath_eq (hns : ∀ n ∈ ns, n.IsStep) (hne : ns ≠ []) :
    readPath ns = dropLeadingEmpty (trail ns ++ (ns.foldl Climbed.step {}).segments).reverse := by
  have hslots : slots ns = ns := if_neg hne
  rw [readPath, hslots, read_lead, OpenPath.close, if_pos rfl, segments_read (q := {}) hns _ rfl]

/-- What is read off the text of the URL: the names, and empty segments around them. -/
theorem exists_readPath_eq (hns : ∀ n ∈ ns, n.IsStep) (hne : ns ≠ []) :
    ∃ ms : List Name, ms ≠ [] ∧ readPath ns = ms.map segment ∧
      (∀ m ∈ ms, Path.separator ∉ m) ∧
      ms.filterMap Component.ofPiece? = (climb ns).reverse.map Component.step := by
  have hread := readPath_eq hns hne
  have hreached := isStep_of_mem_climb hns
  unfold climb at hreached ⊢
  generalize hq : ns.foldl Climbed.step {} = q at hread hreached
  -- the names with what stands around them
  let ms : List Name := (if q.isLed then [[]] else []) ++ q.names.reverse
    ++ if ns.getLast? = some Name.up then [[]] else []
  have hms : ms ≠ [] := by
    obtain ⟨before, n, rfl⟩ := (List.eq_nil_or_concat' ns).resolve_left hne
    by_cases hup : n = Name.up
    · simp [ms, hup]
    · rw [List.foldl_append, List.foldl_cons, List.foldl_nil] at hq
      have hnames : q.names ≠ [] := hq ▸ step_names_ne_nil _ hup
      simp [ms, hnames]
  have hsep : ∀ m ∈ ms, Path.separator ∉ m := by
    intro m hm
    simp only [ms, List.mem_append, List.mem_reverse, List.mem_ite_nil_right, List.mem_singleton]
      at hm
    rcases hm with (⟨-, rfl⟩ | hm) | ⟨-, rfl⟩
    · simp
    · exact (hreached m hm).1.no_separator
    · simp
  have hpieces : ms.filterMap Component.ofPiece? = q.names.reverse.map Component.step := by
    have hnone : Component.ofPiece? [] = none := rfl
    have hnames := Path.filterMap_steps fun m hm => (hreached m (List.mem_reverse.1 hm)).1
    simp only [ms, List.filterMap_append, hnames]
    split <;> split <;> simp [hnone]
  have hsegments : readPath ns = dropLeadingEmpty (ms.map segment) := by
    have hempty : segment [] = [] := rfl
    refine hread.trans (congrArg dropLeadingEmpty ?_)
    simp only [ms, trail, Climbed.segments]
    split <;> split <;> simp [hempty]
  obtain ⟨k, hk, hempty, hleft⟩ := exists_dropLeadingEmpty (ms.map segment)
  refine ⟨ms.drop k, fun hnil => ?_, ?_, fun m hm => hsep m (List.mem_of_mem_drop hm), ?_⟩
  · refine hleft (by simpa using hms) ?_
    rw [hk, ← List.map_drop, hnil]
    rfl
  · rw [hsegments, hk, List.map_drop]
  · rw [filterMap_drop hempty, hpieces]

/-- **Where the text of the URL of an absolute path leads**: to the names that the steps of the path
lead to. -/
theorem exists_toFilePath? {t : Path} (h : t.isAbsolute = true) :
    ∃ (ns : List Name) (u v : Url) (p : Path), (∀ n ∈ ns, n.IsStep) ∧
      t.components = .root :: ns.map Component.step ∧ ofFilePath? t = some u ∧
      parse u.text = .ok v ∧ v.toFilePath? = some p ∧
      p.components = .root :: (climb ns).reverse.map Component.step := by
  obtain ⟨ns, hns, hcomponents⟩ := Path.exists_steps_of_isAbsolute h
  obtain ⟨ms, hms, hread, hsep, hpieces⟩ : ∃ ms : List Name, ms ≠ [] ∧
      readPath ns = ms.map segment ∧ (∀ m ∈ ms, Path.separator ∉ m) ∧
      ms.filterMap Component.ofPiece? = (climb ns).reverse.map Component.step := by
    by_cases hne : ns = []
    · subst hne
      exact ⟨[[]], by simp, by decide +kernel, by simp, rfl⟩
    · exact exists_readPath_eq hns hne
  have hparse := parse_text ns
  rw [hread] at hparse
  have hback := toFilePath?_segments
    (u := { ofNames ns with path := .segments (ms.map segment) }) rfl hms rfl
  refine ⟨ns, ofNames ns, _, _, hns, hcomponents, ofFilePath?_of_components h hcomponents, hparse,
    hback, ?_⟩
  have hpath : (Anchor.root.path ms).components
      = .root :: (climb ns).reverse.map Component.step := by
    rw [Path.components_path ⟨hsep, by simp, by simp⟩, hpieces]
    rfl
  split
  · rw [Path.components_append_separator (by simp [Anchor.path, Anchor.bytes]), hpath]
    simp [Text.pieces, Component.ofPiece?, Name.isNoise]
  · exact hpath

/-- It is the clean path, if the path has no `..` or no name of it looks like a drive. -/
theorem clean_eq_of_climb {t p : Path} (hns : ∀ n ∈ ns, n.IsStep)
    (ht : t.components = .root :: ns.map Component.step)
    (hp : p.components = .root :: (climb ns).reverse.map Component.step)
    (h : .up ∉ t.components ∨ ∀ n, .name n ∈ t.components → isDriveName n = false) :
    p.clean = t.clean := by
  have hreached := isStep_of_mem_climb hns
  have hplain : Name.up ∉ ns ∨ ∀ n ∈ ns, isDriveName n = false := by
    rw [ht] at h
    rcases h with hup | hdrive
    · exact .inl fun hmem => hup (List.mem_cons_of_mem _ (List.mem_map_of_mem hmem))
    · refine .inr fun n hn => ?_
      by_cases hup : n = Name.up
      · rw [hup]
        rfl
      · refine hdrive n (List.mem_cons_of_mem _ ?_)
        rw [← Component.step_of_ne hup]
        exact List.mem_map_of_mem hn
  have hsteps : ∀ n ∈ (climb ns).reverse, n.IsStep := fun n hn =>
    (hreached n (List.mem_reverse.1 hn)).1
  have hnames : ∀ n ∈ (climb ns).reverse, n ≠ Name.up := fun n hn =>
    (hreached n (List.mem_reverse.1 hn)).2
  calc p.clean
      = Anchor.root.spell (climb ns).reverse := Path.clean_of_names hsteps hnames hp
    _ = Anchor.root.spell (ns.foldl Path.advance []).reverse := by rw [climb_eq hplain]
    _ = t.clean := (Path.clean_of_route hns (Path.route_of_components ht)).symm

end Stylesheet.Url
