import Stylesheet.Lookup
import Stylesheet.Proofs.Path.Spelling

set_option autoImplicit false

/-! # The name at the end of a path

What the lookup does to the last name of a tidy path: a shortest text that ends in a name
(`Path.EndsIn`) keeps its start and its other steps when an extension is written after it, when
its extension is cut off, or when it is made a partial. The directory above it is again a
shortest text.
-/

namespace Stylesheet

namespace Name

variable {n stem e : Name}

/-- A name with an extension is its stem, a dot and the extension, and that is the last dot. -/
theorem eq_of_splitExtension (h : n.splitExtension = (stem, some e)) :
    n = stem ++ dot :: e ∧ stem ≠ [] ∧ dot ∉ e := by
  unfold splitExtension at h
  split at h
  · simp at h
  · next s x hne hc =>
      simp only [Prod.mk.injEq, Option.some.injEq] at h
      obtain ⟨rfl, rfl⟩ := h
      exact ⟨Text.eq_of_cutAtLast? hc, hne, Text.not_mem_of_cutAtLast? hc⟩
  · simp at h

/-- What follows the last dot of a name is its extension, unless the dot comes first. -/
theorem splitExtension_append (hne : stem ≠ []) (hdot : dot ∉ e) :
    splitExtension (stem ++ dot :: e) = (stem, some e) := by
  unfold splitExtension
  rw [Text.cutAtLast?_append stem hdot]
  cases stem with
  | nil => exact absurd rfl hne
  | cons b t => rfl

/-- A dot that comes first starts no extension. -/
theorem splitExtension_dot_cons (hdot : dot ∉ e) :
    splitExtension (dot :: e) = (dot :: e, none) := by
  have hcut := Text.cutAtLast?_append [] hdot
  rw [List.nil_append] at hcut
  rw [splitExtension, hcut]

theorem IsStep.append (hn : n.IsStep) {t : Name} (ht : Path.separator ∉ t) : (n ++ t).IsStep := by
  refine ⟨by simp [hn.ne_nil], fun h => ?_, by simp [hn.no_separator, ht]⟩
  -- a text of one byte with a step in front is the step itself
  obtain ⟨b, u, rfl⟩ := List.exists_cons_of_ne_nil hn.ne_nil
  have hu : u = [] ∧ t = [] := by simpa [here] using (List.cons.inj h).2
  obtain ⟨rfl, rfl⟩ := hu
  exact hn.ne_here h

/-- Text with a dot written after a step does not lead upwards. -/
theorem IsStep.append_dot_ne_up (hn : n.IsStep) (t : Name) : n ++ dot :: t ≠ up := by
  intro h
  obtain ⟨b, u, rfl⟩ := List.exists_cons_of_ne_nil hn.ne_nil
  obtain ⟨rfl, hu⟩ := List.cons.inj h
  cases u with
  | nil => exact hn.ne_here rfl
  | cons c u => simp at hu

theorem isStep_dot_cons (he : e ≠ []) (hs : Path.separator ∉ e) : IsStep (dot :: e) :=
  ⟨by simp, by simpa [here] using he, by simpa [dot, Path.separator] using hs⟩

/-- An extension written after any text without a separator makes a name. -/
theorem isStep_append_extension (hn : Path.separator ∉ n) (he : e ≠ [])
    (hs : Path.separator ∉ e) (hd : dot ∉ e) :
    IsStep (n ++ dot :: e) ∧ n ++ dot :: e ≠ up := by
  obtain ⟨b, t, rfl⟩ := List.exists_cons_of_ne_nil he
  have hlong : 2 ≤ (n ++ dot :: b :: t).length := by
    rw [List.length_append, List.length_cons, List.length_cons]
    omega
  refine ⟨⟨by simp, fun h => ?_, ?_⟩, fun h => ?_⟩
  · rw [h] at hlong
    simp [here] at hlong
  · have hdot : Path.separator ≠ dot := by decide
    simpa [hn, hdot] using hs
  · -- of two dots the last would belong to the extension
    have hlast := congrArg List.getLast? h
    rw [List.getLast?_append] at hlast
    simp [up, List.getLast?_cons_cons] at hlast
    exact hd (List.mem_of_getLast? hlast)

theorem IsStep.partialMark_cons (hn : n.IsStep) : IsStep (partialMark :: n) :=
  ⟨by simp, by simp [here, partialMark, dot], by
    simpa [partialMark, Path.separator] using hn.no_separator⟩

end Name

namespace Path

variable {a : Anchor} {ns : List Name} {n : Name}

/-! ## The last step -/

/-- The noise between the start of a shortest text and its steps. -/
def gap : Anchor → List Name
  | .here => [[]]
  | _ => []

theorem steps_concat (h : ∀ m ∈ ns, m.IsStep) (hn : n.IsStep) : ∀ m ∈ ns ++ [n], m.IsStep := by
  intro m hm
  rcases List.mem_append.1 hm with hm | hm
  · exact h m hm
  · exact List.mem_singleton.1 hm ▸ hn

theorem pieces_spell (h : ∀ m ∈ ns, m.IsStep) (hne : ns ≠ []) :
    (a.spell ns).pieces = gap a ++ ns := by
  rw [pieces, layout_spell h]
  cases a <;> simp [gap, hne]

/-- A start with the gap and steps after it. -/
theorem path_gap (a : Anchor) (ns : List Name) : a.path (gap a ++ ns) = a.spell ns := by
  cases a with
  | here => cases ns <;> simp [Anchor.path, Anchor.spell, Anchor.bytes, gap, Text.join]
  | _ => rfl

theorem lastPiece?_spell (h : ∀ m ∈ ns, m.IsStep) (hn : n.IsStep) :
    (a.spell (ns ++ [n])).lastPiece? = some (n, (gap a ++ ns).reverse) := by
  have hs := steps_concat h hn
  rw [lastPiece?, pieces_spell hs (by simp), ← List.append_assoc, List.reverse_append]
  simp [hn.isNoise]

theorem fileName?_spell (h : ∀ m ∈ ns, m.IsStep) (hn : n.IsStep) (hup : n ≠ Name.up) :
    (a.spell (ns ++ [n])).fileName? = some n := by
  rw [fileName?, lastPiece?_spell h hn]
  exact if_neg hup

theorem upToStem_spell (h : ∀ m ∈ ns, m.IsStep) (hn : n.IsStep) (hup : n ≠ Name.up) :
    (a.spell (ns ++ [n])).upToStem = a.spell (ns ++ [n.splitExtension.1]) := by
  have hs := steps_concat h hn
  rw [upToStem, lastPiece?_spell h hn]
  simp only [hup, if_false]
  rw [anchor_spell hs, List.reverse_cons, List.reverse_reverse, List.append_assoc, path_gap]

theorem upToStem_spell_up (h : ∀ m ∈ ns, m.IsStep) :
    (a.spell (ns ++ [Name.up])).upToStem = a.spell (ns ++ [Name.up]) := by
  rw [upToStem, lastPiece?_spell h isStep_up]
  rfl

/-- The directory that a step lies in. -/
theorem parent?_spell (h : ∀ m ∈ ns, m.IsStep) (hn : n.IsStep) :
    (a.spell (ns ++ [n])).parent? = some (a.spell ns) := by
  have hs := steps_concat h hn
  have habove : (a.spell (ns ++ [n])).parents.head?
      = some (a.path ((gap a ++ ns).reverse.dropWhile Name.isNoise).reverse) := by
    rw [parents, anchor_spell hs, pieces_spell hs (by simp), ← List.append_assoc,
      List.reverse_append, List.reverse_singleton]
    simp [parentsFrom, hn.isNoise]
  rw [parent?, habove, Option.some.injEq]
  -- no noise ends the text above the step, unless nothing but the start is left
  rcases ns.eq_nil_or_concat' with rfl | ⟨before, m, rfl⟩
  · cases a <;> rfl
  · have hm := (h m (by simp)).isNoise
    calc a.path ((gap a ++ (before ++ [m])).reverse.dropWhile Name.isNoise).reverse
        = a.path ((m :: (gap a ++ before).reverse).dropWhile Name.isNoise).reverse := by
          rw [← List.append_assoc, List.reverse_append, List.reverse_singleton,
            List.singleton_append]
      _ = a.path (gap a ++ (before ++ [m])) := by
          rw [List.dropWhile_cons_of_neg (by simp [hm]), List.reverse_cons, List.reverse_reverse,
            List.append_assoc]
      _ = a.spell (before ++ [m]) := path_gap a _

/-- The partial beside a name. -/
theorem asPartial?_spell (h : ∀ m ∈ ns, m.IsStep) (hn : n.IsStep) (hup : n ≠ Name.up) :
    (a.spell (ns ++ [n])).asPartial? = some (a.spell (ns ++ [partialMark :: n])) := by
  have hf := fileName?_spell (a := a) h hn hup
  calc (a.spell (ns ++ [n])).asPartial?
      = some ((a.spell (ns ++ [n])).withFileName (partialMark :: n)) := by
        rw [asPartial?, hf, Option.map_some]
    _ = some ((a.spell ns).join ⟨partialMark :: n⟩) := by
        rw [withFileName, hf, parent?_spell h hn]
        rfl
    _ = some (a.spell (ns ++ [partialMark :: n])) :=
        congrArg some (join_spell h hn.partialMark_cons)

/-- The directory that a tidy path lies in is tidy. -/
theorem Tidy.parentOrSelf {p : Path} (h : p.Tidy) : p.parentOrSelf.Tidy := by
  obtain ⟨a, ns, hns, rfl⟩ := h
  rcases ns.eq_nil_or_concat' with rfl | ⟨before, n, rfl⟩
  · cases a with
    | root => exact ⟨.root, [], hns, rfl⟩
    | here => exact ⟨.none, [], hns, rfl⟩
    | none => exact ⟨.none, [], hns, rfl⟩
  · have hb : ∀ m ∈ before, m.IsStep := fun m hm => hns m (by simp [hm])
    rw [Path.parentOrSelf, parent?_spell hb (hns n (by simp))]
    exact tidy_spell hb

/-- Noise at the end of pieces means nothing. -/
theorem filterMap_trimmed (ms : List Name) :
    (ms.dropWhile Name.isNoise).reverse.filterMap Component.ofPiece?
      = ms.reverse.filterMap Component.ofPiece? := by
  induction ms with
  | nil => rfl
  | cons n ms ih =>
      by_cases hn : n.isNoise = true
      · rw [List.dropWhile_cons_of_pos hn, ih]
        simp [Component.ofPiece?, hn]
      · rw [List.dropWhile_cons_of_neg hn]

/-- The file name shows in the components. -/
theorem fileName?_eq (p : Path) :
    p.fileName? = match p.components.getLast? with
      | some (.name n) => some n
      | _ => none := by
  have hp := filterMap_trimmed p.pieces.reverse
  rw [List.reverse_reverse] at hp
  rw [fileName?, lastPiece?, components, ← hp]
  have hhead := List.head?_dropWhile_not Name.isNoise p.pieces.reverse
  cases hd : p.pieces.reverse.dropWhile Name.isNoise with
  | nil => cases p.anchor <;> rfl
  | cons n before =>
      rw [hd] at hhead
      simp only [List.head?_cons] at hhead
      have hn : n.isNoise = false := by simpa using hhead
      rw [List.reverse_cons, List.filterMap_append, ← List.append_assoc]
      by_cases hup : n = Name.up
      · subst hup
        simp [Component.ofPiece?, hn]
      · simp [Component.ofPiece?, hn, hup]

theorem extension?_eq_of_same {p q : Path} (h : p.same q = true) : p.extension? = q.extension? := by
  rw [extension?, extension?, fileName?_eq, fileName?_eq, same_iff.1 h]

/-! ## Paths that end in a name -/

/-- A tidy path whose last step is the name `n`. -/
def EndsIn (p : Path) (n : Name) : Prop :=
  n.IsStep ∧ n ≠ Name.up ∧
    ∃ (a : Anchor) (ns : List Name), (∀ m ∈ ns, m.IsStep) ∧ p = a.spell (ns ++ [n])

namespace EndsIn

variable {p : Path}

theorem tidy (h : p.EndsIn n) : p.Tidy := by
  obtain ⟨hn, -, a, ns, hns, rfl⟩ := h
  exact tidy_spell (steps_concat hns hn)

theorem fileName? (h : p.EndsIn n) : p.fileName? = some n := by
  obtain ⟨hn, hup, a, ns, hns, rfl⟩ := h
  exact fileName?_spell hns hn hup

theorem extension? (h : p.EndsIn n) : p.extension? = n.splitExtension.2 := by
  rw [Path.extension?, h.fileName?]
  rfl

theorem parent? (h : p.EndsIn n) : p.parent? = some p.parentOrSelf := by
  obtain ⟨hn, -, a, ns, hns, rfl⟩ := h
  rw [Path.parentOrSelf, parent?_spell hns hn]
  rfl

/-- The partial under a name lies beside it. -/
theorem asPartial? (h : p.EndsIn n) : ∃ q, p.asPartial? = some q ∧ q.EndsIn (partialMark :: n) := by
  obtain ⟨hn, hup, a, ns, hns, rfl⟩ := h
  exact ⟨_, asPartial?_spell hns hn hup, hn.partialMark_cons, by
    simp [Name.up, partialMark, Name.dot], a, ns, hns, rfl⟩

end EndsIn

/-- A tidy path with an extension ends in the name that has it. -/
theorem Tidy.endsIn_of_extension? {p : Path} {e : Name} (h : p.Tidy) (he : p.extension? = some e) :
    ∃ n stem : Name, p.EndsIn n ∧ n.splitExtension = (stem, some e) := by
  obtain ⟨a, ns, hns, rfl⟩ := h
  rcases ns.eq_nil_or_concat' with rfl | ⟨before, n, rfl⟩
  · cases a <;> simp [Path.extension?, Path.fileName?, lastPiece?, pieces, layout_spell,
      Name.isNoise] at he
  · obtain ⟨hb, hn⟩ : (∀ m ∈ before, m.IsStep) ∧ n.IsStep :=
      ⟨fun m hm => hns m (by simp [hm]), hns n (by simp)⟩
    by_cases hup : n = Name.up
    · rw [Path.extension?, Path.fileName?, lastPiece?_spell hb hn] at he
      simp [hup] at he
    · have hend : (a.spell (before ++ [n])).EndsIn n := ⟨hn, hup, a, before, hb, rfl⟩
      rw [hend.extension?] at he
      exact ⟨n, n.splitExtension.1, hend, by rw [← he]⟩

/-! ## Extensions -/

theorem appendExtension_spell (a : Anchor) (ns : List Name) (n e : Name) :
    (a.spell (ns ++ [n])).appendExtension e = a.spell (ns ++ [n ++ Name.dot :: e]) := by
  cases a with
  | root => simp [appendExtension, Anchor.spell, Text.join_append_last]
  | none => simp [appendExtension, Anchor.spell, Text.join_append_last]
  | here =>
      simp only [appendExtension, Anchor.spell]
      rw [← List.cons_append, ← List.cons_append, Text.join_append_last]

/-- A tidy path with an extension written after it ends in a name: that of the last step, or of
the start where no step follows. -/
theorem Tidy.appendExtension {p : Path} (h : p.Tidy) {e : Name} (he : e ≠ [])
    (hs : separator ∉ e) (hd : Name.dot ∉ e) :
    ∃ stem, (p.appendExtension e).EndsIn (stem ++ Name.dot :: e) := by
  have hdot : separator ∉ Name.dot :: e := by simpa [Name.dot, separator] using hs
  obtain ⟨a, ns, hns, rfl⟩ := h
  rcases ns.eq_nil_or_concat' with rfl | ⟨before, n, rfl⟩
  · have hhidden : Name.IsStep (Name.dot :: e) ∧ Name.dot :: e ≠ Name.up := by
      refine ⟨Name.isStep_dot_cons he hs, fun hup => hd ?_⟩
      rw [(List.cons.inj hup).2]
      simp
    cases a with
    | root => exact ⟨[], hhidden.1, hhidden.2, .root, [], by simp, rfl⟩
    | here =>
        refine ⟨Name.here, ⟨by simp, ?_, ?_⟩, ?_, .none, [], by simp, rfl⟩
        · simp [Name.here]
        · simpa [Name.here, Name.dot, separator] using hs
        · simpa [Name.here, Name.up] using he
    | none => exact ⟨[], hhidden.1, hhidden.2, .none, [], by simp, rfl⟩
  · obtain ⟨hb, hn⟩ : (∀ m ∈ before, m.IsStep) ∧ n.IsStep :=
      ⟨fun m hm => hns m (by simp [hm]), hns n (by simp)⟩
    exact ⟨n, hn.append hdot, hn.append_dot_ne_up e, a, before, hb,
      appendExtension_spell a before n e⟩

/-- The bytes of a shortest text end in those of its last step. -/
theorem bytes_spell_append (a : Anchor) (ns : List Name) (n t : Name) :
    (a.spell (ns ++ [n ++ t])).bytes = (a.spell (ns ++ [n])).bytes ++ t := by
  cases a with
  | root => simp [Anchor.spell, Text.join_append_last]
  | none => simp [Anchor.spell, Text.join_append_last]
  | here =>
      simp only [Anchor.spell]
      rw [← List.cons_append, ← List.cons_append, Text.join_append_last]

/-- Cutting off an extension and writing it again changes nothing but the last name, and that only
if its stem is a dot: then both dots stay and the extension gets a third one. -/
theorem appendExtension_withoutExtension_spell {stem e : Name} (hns : ∀ m ∈ ns, m.IsStep)
    (hn : n.IsStep) (hup : n ≠ Name.up) (he : n.splitExtension = (stem, some e)) :
    (a.spell (ns ++ [n])).withoutExtension.appendExtension e =
      a.spell (ns ++ [(if stem = Name.here then Name.up else stem) ++ Name.dot :: e]) := by
  have hext : (a.spell (ns ++ [n])).extension? = some e := by
    rw [extension?, fileName?_spell hns hn hup]
    exact congrArg Prod.snd he
  obtain ⟨hcut, hne, hdot⟩ := Name.eq_of_splitExtension he
  have hstem : separator ∉ stem := by
    have hs := hn.no_separator
    rw [hcut, List.mem_append, not_or] at hs
    exact hs.1
  -- without the extension the text ends in the stem and its dot
  have htake : (⟨(a.spell (ns ++ [n])).bytes.take
      ((a.spell (ns ++ [n])).bytes.length - e.length)⟩ : Path)
        = a.spell (ns ++ [stem ++ [Name.dot]]) := by
    have hb := bytes_spell_append a ns (stem ++ [Name.dot]) e
    rw [List.append_assoc, List.singleton_append, ← hcut] at hb
    rw [hb, List.length_append, Nat.add_sub_cancel, List.take_left]
  rw [withoutExtension, hext]
  simp only [htake]
  by_cases hdots : stem = Name.here
  · subst hdots
    rw [show Name.here ++ [Name.dot] = Name.up from rfl, upToStem_spell_up hns,
      appendExtension_spell, if_pos rfl]
  · have hstep : stem.IsStep := ⟨hne, hdots, hstem⟩
    have hsplit : (stem ++ [Name.dot]).splitExtension = (stem, some []) :=
      Name.splitExtension_append hne (by simp)
    rw [upToStem_spell hns (hstep.append (by simp [Name.dot, separator]))
      (hstep.append_dot_ne_up []), hsplit, appendExtension_spell, if_neg hdots]

/-- A name whose extension was cut off and written again is a name with that extension. -/
theorem isStep_stem_append {stem e : Name} (hn : n.IsStep)
    (he : n.splitExtension = (stem, some e)) :
    Name.IsStep ((if stem = Name.here then Name.up else stem) ++ Name.dot :: e) ∧
      (if stem = Name.here then Name.up else stem) ++ Name.dot :: e ≠ Name.up := by
  obtain ⟨hcut, hne, -⟩ := Name.eq_of_splitExtension he
  have hs := hn.no_separator
  rw [hcut, List.mem_append, not_or] at hs
  obtain ⟨hstem, hsep⟩ := hs
  by_cases hdots : stem = Name.here
  · rw [if_pos hdots]
    exact ⟨isStep_up.append hsep, isStep_up.append_dot_ne_up e⟩
  · rw [if_neg hdots]
    have hstep : stem.IsStep := ⟨hne, hdots, hstem⟩
    exact ⟨hstep.append hsep, hstep.append_dot_ne_up e⟩

/-- Cutting off an extension and writing it again gives a name with that extension. It is the
name cut unless its stem is a dot. -/
theorem EndsIn.appendExtension_withoutExtension {p : Path} {stem e : Name} (h : p.EndsIn n)
    (he : n.splitExtension = (stem, some e)) :
    (p.withoutExtension.appendExtension e).EndsIn
        ((if stem = Name.here then Name.up else stem) ++ Name.dot :: e) ∧
      (stem ≠ Name.here → p.withoutExtension.appendExtension e = p) := by
  obtain ⟨hn, hup, a, ns, hns, rfl⟩ := h
  rw [appendExtension_withoutExtension_spell hns hn hup he]
  obtain ⟨hstep, hne⟩ := isStep_stem_append hn he
  refine ⟨⟨hstep, hne, a, ns, hns, rfl⟩, fun hdots => ?_⟩
  rw [if_neg hdots, ← (Name.eq_of_splitExtension he).1]

end Path

end Stylesheet
