import Stylesheet.Proofs.Path.Naming

set_option autoImplicit false

/-! # The directories above a path

However a path is spelled, the components of the directories above it are the beginnings of its
own (`exists_mem_parents_iff`). A name read from a directory becomes the last piece of the text, and
the directory that it lies in is that directory, spelled without noise at its end
(`exists_parent?_join`). Every path comes about like this, from the text up to its last separator
and what follows it (`exists_eq_join`).
-/

namespace Stylesheet

namespace Path

variable {a : Anchor} {ms : List Name} {n : Name}

/-! ## Starts and pieces -/

/-- A path is read as pieces that its start can have. -/
theorem leads_pieces (p : Path) : p.anchor.Leads p.pieces := by
  refine ⟨fun m hm => separator_not_mem_of_mem_pieces hm, ?_, ?_⟩
  all_goals
    obtain ⟨bs⟩ := p
    unfold anchor pieces layout
    cases bs with
    | nil => simp
    | cons b rest =>
        by_cases hb : b = separator
        · simp [hb]
        · cases hp : Text.pieces (· == separator) (b :: rest) with
          | nil => exact absurd hp (Text.pieces_ne_nil _ _)
          | cons first others =>
              by_cases hf : first = Name.here
              · simp [hb, hp, hf]
              · have hne : first ≠ [] := by
                  rintro rfl
                  have hj := Text.join_pieces separator (b :: rest)
                  rw [hp] at hj
                  cases others with
                  | nil => cases hj
                  | cons m others => exact hb (List.cons.inj hj).1.symm
                simp [hb, hp, hf, hne]

/-- The pieces as they are gone through, the last one first. -/
theorem leads_reverse_pieces (p : Path) : p.anchor.Leads p.pieces.reverse.reverse := by
  rw [List.reverse_reverse]
  exact p.leads_pieces

theorem components_of_layout {p : Path} (h : p.layout = (a, ms)) :
    p.components = a.components ++ ms.filterMap Component.ofPiece? := by
  rw [components, anchor, pieces, h]

/-- A path whose last piece is a name lies in the directory that the pieces before it lead to. -/
theorem parent?_of_layout {p : Path} {n : Name} (h : p.layout = (a, ms ++ [n]))
    (hn : n.isNoise = false) :
    p.parent? = some (a.path (ms.reverse.dropWhile Name.isNoise).reverse) := by
  rw [parent?, parents, anchor, pieces, h, List.reverse_append, List.reverse_singleton,
    List.singleton_append, parentsFrom, hn, if_neg Bool.false_ne_true, List.head?_cons]

/-- The components of a start with pieces after it. -/
theorem components_path (h : a.Leads ms) :
    (a.path ms).components = a.components ++ ms.filterMap Component.ofPiece? := by
  by_cases hne : ms = []
  · subst hne
    cases a <;> rfl
  · exact components_of_layout (layout_path h hne)

/-! ## The directories above -/

theorem trimmed_isPrefix (before : List Name) :
    (before.dropWhile Name.isNoise).reverse <+: before.reverse :=
  List.reverse_prefix.2 (List.dropWhile_suffix _)

/-- The proper beginnings of a list with one more at its end are the beginnings of the list. -/
theorem isPrefix_concat_and_ne_iff {cs above : List Component} {c : Component} :
    cs <+: above ++ [c] ∧ cs ≠ above ++ [c] ↔ cs <+: above := by
  rw [List.prefix_concat_iff]
  constructor
  · rintro ⟨heq | hpre, hne⟩
    · exact absurd heq hne
    · exact hpre
  · intro hpre
    refine ⟨.inr hpre, ?_⟩
    rintro rfl
    exact absurd hpre.length_le (by simp)

/-- The last piece may be left out. -/
theorem leads_of_reverse_cons {before : List Name} (h : a.Leads (n :: before).reverse) :
    a.Leads before.reverse := by
  refine h.of_isPrefix ?_
  rw [List.reverse_cons]
  exact List.prefix_append _ _

/-- The components of the directory that pieces spell without the noise at their end. -/
theorem components_trimmed {before : List Name} (h : a.Leads before.reverse) :
    (a.path (before.dropWhile Name.isNoise).reverse).components
      = a.components ++ before.reverse.filterMap Component.ofPiece? := by
  rw [components_path (h.of_isPrefix (trimmed_isPrefix before)), filterMap_trimmed]

/-- The directories above what pieces spell, the last piece first. -/
theorem exists_mem_parentsFrom_iff {before : List Name} (h : a.Leads before.reverse)
    (cs : List Component) :
    (∃ q ∈ parentsFrom a before, q.components = cs) ↔
      (cs <+: a.components ++ before.reverse.filterMap Component.ofPiece? ∧
        cs ≠ a.components ++ before.reverse.filterMap Component.ofPiece?) ∧
        (a = .root → cs ≠ []) := by
  induction before with
  | nil =>
      cases a with
      | root =>
          show (∃ q ∈ ([] : List Path), q.components = cs) ↔
            (cs <+: [] ++ [.root] ∧ cs ≠ [] ++ [.root]) ∧ (_ → cs ≠ [])
          rw [isPrefix_concat_and_ne_iff, List.prefix_nil]
          simp
      | here =>
          show (∃ q ∈ [Path.empty], q.components = cs) ↔
            (cs <+: [] ++ [.here] ∧ cs ≠ [] ++ [.here]) ∧ (_ → cs ≠ [])
          have hempty : Path.empty.components = [] := rfl
          rw [isPrefix_concat_and_ne_iff, List.prefix_nil]
          simp [hempty, eq_comm]
      | none =>
          show (∃ q ∈ ([] : List Path), q.components = cs) ↔ (cs <+: [] ∧ cs ≠ []) ∧ (_ → cs ≠ [])
          rw [List.prefix_nil]
          simp
  | cons n before ih =>
      have hbefore := leads_of_reverse_cons h
      have hi := ih hbefore
      rw [parentsFrom, List.reverse_cons, List.filterMap_append]
      cases hn : Component.ofPiece? n with
      | none =>
          rw [if_pos (Component.ofPiece?_eq_none_iff.1 hn), hi]
          simp [hn]
      | some c =>
          have hnoise : ¬ n.isNoise = true := fun e => by
            simp [Component.ofPiece?_eq_none_iff.2 e] at hn
          have hroot : a = .root →
              a.components ++ before.reverse.filterMap Component.ofPiece? ≠ [] := by
            rintro rfl
            simp [Anchor.components]
          rw [if_neg hnoise, List.filterMap_cons_some hn, List.filterMap_nil, ← List.append_assoc,
            isPrefix_concat_and_ne_iff, List.exists_mem_cons_iff, components_trimmed hbefore, hi]
          generalize a.components ++ before.reverse.filterMap Component.ofPiece? = above at hroot
          -- the nearest directory has all of the components, those above it fewer
          constructor
          · rintro (rfl | ⟨⟨hpre, -⟩, hne⟩)
            · exact ⟨List.prefix_rfl, hroot⟩
            · exact ⟨hpre, hne⟩
          · rintro ⟨hpre, hne⟩
            by_cases heq : above = cs
            · exact .inl heq
            · exact .inr ⟨⟨hpre, fun e => heq e.symm⟩, hne⟩

/-- The nearest directory above an absolute path has all of its components but the last. -/
theorem components_of_head?_parentsFrom {before : List Name} {q : Path}
    (h : Anchor.root.Leads before.reverse) (hq : (parentsFrom .root before).head? = some q) :
    ∃ c, (Anchor.root.path before.reverse).components = q.components ++ [c] := by
  induction before with
  | nil => cases hq
  | cons n before ih =>
      have hbefore := leads_of_reverse_cons h
      rw [components_path h, List.reverse_cons, List.filterMap_append]
      rw [parentsFrom] at hq
      cases hn : Component.ofPiece? n with
      | none =>
          rw [if_pos (Component.ofPiece?_eq_none_iff.1 hn)] at hq
          obtain ⟨c, hc⟩ := ih hbefore hq
          rw [components_path hbefore] at hc
          exact ⟨c, by simpa [hn] using hc⟩
      | some c =>
          have hnoise : ¬ n.isNoise = true := fun e => by
            simp [Component.ofPiece?_eq_none_iff.2 e] at hn
          rw [if_neg hnoise] at hq
          obtain rfl := Option.some.inj hq
          rw [components_trimmed hbefore]
          exact ⟨c, by simp [hn]⟩

/-- A path lies above another if its components are a proper beginning of those of the other. The
empty path lies above relative paths only. -/
structure IsAbove (q p : Path) : Prop where
  isPrefix : q.components <+: p.components
  ne : q.components ≠ p.components
  ne_nil : p.isAbsolute = true → q.components ≠ []

/-- **The directories above a path** are those that its components begin with. -/
theorem exists_mem_parents_iff {p q : Path} :
    (∃ d ∈ p.parents, d.components = q.components) ↔ q.IsAbove p := by
  rw [parents, exists_mem_parentsFrom_iff p.leads_reverse_pieces, List.reverse_reverse]
  constructor
  · rintro ⟨⟨hpre, hne⟩, hroot⟩
    exact ⟨hpre, hne, fun h => hroot (by simpa [isAbsolute_eq] using h)⟩
  · rintro ⟨hpre, hne, hroot⟩
    exact ⟨⟨hpre, hne⟩, fun h => hroot (by simpa [isAbsolute_eq] using h)⟩

theorem isAbove_of_mem_parents {p q : Path} (h : q ∈ p.parents) : q.IsAbove p :=
  exists_mem_parents_iff.1 ⟨q, h, rfl⟩

/-- An absolute path starts with the root. -/
theorem isAbsolute_eq_head? (p : Path) : p.isAbsolute = (p.components.head? == some .root) := by
  obtain ⟨ns, -, hc⟩ := p.components_eq_steps
  rw [isAbsolute_eq, hc]
  cases p.anchor with
  | root => rfl
  | here => rfl
  | none =>
      cases ns with
      | nil => rfl
      | cons n ns =>
          by_cases hup : n = Name.up <;> simp [Anchor.components, Component.step, hup]

theorem IsAbove.trans {p q r : Path} (hpq : p.IsAbove q) (hqr : q.IsAbove r) : p.IsAbove r := by
  refine ⟨hpq.isPrefix.trans hqr.isPrefix, fun heq => ?_, fun hr => ?_⟩
  · -- a beginning of a beginning is no longer
    have hle := hqr.isPrefix.length_le
    rw [← heq] at hle
    exact hpq.ne (hpq.isPrefix.eq_of_length_le hle)
  · refine hpq.ne_nil ?_
    have hne := hqr.ne_nil hr
    obtain ⟨rest, hrest⟩ := hqr.isPrefix
    rw [isAbsolute_eq_head?, ← hrest, List.head?_append_of_ne_nil _ hne] at hr
    rwa [isAbsolute_eq_head?]

theorem IsAbove.asymm {p q : Path} (hpq : p.IsAbove q) : ¬ q.IsAbove p :=
  fun hqp => (hpq.trans hqp).ne rfl

theorem IsAbove.congr {p p' q : Path} (h : q.IsAbove p) (hp : p.components = p'.components) :
    q.IsAbove p' := by
  obtain ⟨hpre, hne, hnil⟩ := h
  rw [isAbsolute_eq_head?, hp] at hnil
  rw [hp] at hpre hne
  exact ⟨hpre, hne, by rwa [isAbsolute_eq_head?]⟩

theorem pairwise_parentsFrom {before : List Name} (h : a.Leads before.reverse) :
    (parentsFrom a before).Pairwise fun q r =>
      r.components <+: q.components ∧ r.components ≠ q.components := by
  induction before with
  | nil => cases a <;> simp [parentsFrom]
  | cons n before ih =>
      have hbefore := leads_of_reverse_cons h
      rw [parentsFrom]
      split
      · exact ih hbefore
      · refine List.pairwise_cons.2 ⟨fun r hr => ?_, ih hbefore⟩
        rw [components_trimmed hbefore]
        exact ((exists_mem_parentsFrom_iff hbefore r.components).1 ⟨r, hr, rfl⟩).1

/-- **A path and the directories above it** stand in order: each lies above those before it. -/
theorem pairwise_ancestors (p : Path) : p.ancestors.Pairwise fun q r => r.IsAbove q := by
  refine List.pairwise_cons.2 ⟨fun r hr => isAbove_of_mem_parents hr, ?_⟩
  refine (pairwise_parentsFrom p.leads_reverse_pieces).imp_of_mem fun {q r} hq hr hqr => ?_
  refine ⟨hqr.1, hqr.2, fun habs => ?_⟩
  -- whatever starts with the root lies below it
  have hqp := isAbove_of_mem_parents hq
  refine (isAbove_of_mem_parents hr).ne_nil ?_
  rw [isAbsolute_eq_head?] at habs ⊢
  obtain ⟨rest, hrest⟩ := hqp.isPrefix
  have hne : q.components ≠ [] := fun hnil => by simp [hnil] at habs
  rwa [← hrest, List.head?_append_of_ne_nil _ hne]

/-! ## Names read from a directory -/

/-- Text after a separator becomes pieces of its own. -/
theorem layout_append_separator {p : Path} (hne : p.bytes ≠ []) (t : List UInt8) :
    (⟨p.bytes ++ separator :: t⟩ : Path).layout =
      (p.anchor, p.pieces ++ Text.pieces (· == separator) t) := by
  obtain ⟨bs⟩ := p
  obtain ⟨b, rest, rfl⟩ := List.exists_cons_of_ne_nil hne
  unfold anchor pieces
  by_cases hb : b = separator
  · simp [layout, hb, Text.pieces_append_sep]
  · have happend := Text.pieces_append_sep separator (b :: rest) t
    rw [List.cons_append] at happend
    cases hp : Text.pieces (· == separator) (b :: rest) with
    | nil => exact absurd hp (Text.pieces_ne_nil _ _)
    | cons first others =>
        rw [hp] at happend
        by_cases hf : first = Name.here <;> simp [layout, hb, hp, hf, happend]

/-- Text after a separator means more steps. -/
theorem components_append_separator {p : Path} (hne : p.bytes ≠ []) (t : List UInt8) :
    (⟨p.bytes ++ separator :: t⟩ : Path).components
      = p.components ++ (Text.pieces (· == separator) t).filterMap Component.ofPiece? := by
  rw [components_of_layout (layout_append_separator hne t), List.filterMap_append,
    ← List.append_assoc, components]

/-- What is read from a path goes on where its components end. -/
theorem components_isPrefix_join (p : Path) {q : Path} (hq : q.isAbsolute = false) :
    p.components <+: (p.join q).components := by
  obtain ⟨bs⟩ := p
  rw [join, hq, if_neg Bool.false_ne_true]
  rcases bs.eq_nil_or_concat' with rfl | ⟨before, b, rfl⟩
  · exact List.nil_prefix
  · by_cases hb : b = separator
    · subst hb
      rw [if_pos (by simp)]
      by_cases hbefore : before = []
      · subst hbefore
        exact ⟨(Text.pieces (· == separator) q.bytes).filterMap Component.ofPiece?, rfl⟩
      · -- the separator at the end means nothing, with or without text behind it
        have hself := @components_append_separator ⟨before⟩ hbefore []
        have hjoin := @components_append_separator ⟨before⟩ hbefore q.bytes
        have hnoise : (Text.pieces (· == separator) []).filterMap Component.ofPiece? = [] := rfl
        rw [hnoise, List.append_nil] at hself
        simp only [List.append_assoc, List.singleton_append]
        rw [hself, hjoin]
        exact List.prefix_append _ _
    · have hjoin := @components_append_separator ⟨before ++ [b]⟩ (by simp) q.bytes
      rw [if_neg (by simp [hb]), hjoin]
      exact List.prefix_append _ _

/-- A name read from a path comes after the pieces of the path. An empty piece at its end gives way
to the name. -/
theorem exists_layout_join (p : Path) :
    ∃ ms, ms <+: p.pieces ∧
      ms.filterMap Component.ofPiece? = p.pieces.filterMap Component.ofPiece? ∧
      ∀ n : Name, separator ∉ n → (p.bytes = [] → n.IsStep) →
        (p.join ⟨n⟩).layout = (p.anchor, ms ++ [n]) := by
  have hpieces : ∀ n : Name, separator ∉ n → Text.pieces (· == separator) n = [n] :=
    fun n hn => Text.pieces_of_not_mem hn
  obtain ⟨bs⟩ := p
  rcases bs.eq_nil_or_concat' with rfl | ⟨before, b, rfl⟩
  · -- without a separator in front, a name that is noise would become the start
    refine ⟨[], List.nil_prefix, rfl, fun n hn hstep => ?_⟩
    have hspell := @layout_spell .none [n] (by simpa using hstep rfl)
    rw [join, isAbsolute_of_not_mem hn]
    exact hspell
  · by_cases hb : b = separator
    · -- the name goes on behind the last separator, in place of the empty piece there
      subst hb
      have hjoin : ∀ n : Name, separator ∉ n →
          (⟨before ++ [separator]⟩ : Path).join ⟨n⟩ = ⟨before ++ separator :: n⟩ := by
        intro n hn
        rw [join, isAbsolute_of_not_mem hn]
        simp
      by_cases hbefore : before = []
      · subst hbefore
        refine ⟨[], List.nil_prefix, rfl, fun n hn _ => ?_⟩
        rw [hjoin n hn]
        simp [layout, hpieces n hn, anchor]
      · have hlayout := layout_append_separator (p := ⟨before⟩) hbefore
        have hself := hlayout []
        refine ⟨(⟨before⟩ : Path).pieces, ?_, ?_, fun n hn _ => ?_⟩
        · rw [pieces, pieces, hself]
          exact List.prefix_append _ _
        · rw [pieces, pieces, hself]
          simp [Text.pieces, Component.ofPiece?, Name.isNoise, pieces]
        · rw [hjoin n hn, hlayout, hpieces n hn]
          simp [anchor, hself]
    · -- all pieces are complete, and a separator is put between
      have hne : before ++ [b] ≠ [] := by simp
      refine ⟨_, List.prefix_rfl, rfl, fun n hn _ => ?_⟩
      have hjoin : (⟨before ++ [b]⟩ : Path).join ⟨n⟩ = ⟨before ++ [b] ++ separator :: n⟩ := by
        rw [join, isAbsolute_of_not_mem hn]
        simp [hb]
      rw [hjoin, layout_append_separator hne, hpieces n hn]

theorem components_join (p : Path) (hn : n.IsStep) :
    (p.join ⟨n⟩).components = p.components ++ [Component.step n] := by
  obtain ⟨ms, -, hms, hlayout⟩ := p.exists_layout_join
  calc (p.join ⟨n⟩).components
      = p.anchor.components ++ (ms ++ [n]).filterMap Component.ofPiece? :=
        components_of_layout (hlayout n hn.no_separator fun _ => hn)
    _ = p.components ++ [Component.step n] := by
        rw [List.filterMap_append, hms, components]
        simp [hn.ofPiece?]

/-- What follows the last separator means one component at most. -/
theorem exists_components_join (p : Path) (hn : separator ∉ n) :
    (p.join ⟨n⟩).components = p.components ∨
      ∃ c, c ≠ .root ∧ (p.join ⟨n⟩).components = p.components ++ [c] := by
  by_cases hstep : n.IsStep
  · refine .inr ⟨Component.step n, ?_, p.components_join hstep⟩
    unfold Component.step
    split <;> simp
  · have hnoise : n = [] ∨ n = Name.here := by
      by_contra h
      exact hstep ⟨fun e => h (.inl e), fun e => h (.inr e), hn⟩
    by_cases hempty : p.bytes = []
    · obtain rfl : p = ⟨[]⟩ := congrArg Path.mk hempty
      rcases hnoise with rfl | rfl
      · exact .inl rfl
      · exact .inr ⟨.here, by simp, rfl⟩
    · obtain ⟨ms, -, hms, hlayout⟩ := p.exists_layout_join
      have hpiece : Component.ofPiece? n = none := by
        rcases hnoise with rfl | rfl <;> rfl
      left
      calc (p.join ⟨n⟩).components
          = p.anchor.components ++ (ms ++ [n]).filterMap Component.ofPiece? :=
            components_of_layout (hlayout n hn fun h => absurd h hempty)
        _ = p.components := by
            rw [List.filterMap_append, hms, components]
            simp [hpiece]

theorem fileName?_join (p : Path) (hn : n.IsStep) (hup : n ≠ Name.up) :
    (p.join ⟨n⟩).fileName? = some n := by
  rw [fileName?_eq, components_join p hn, Component.step_of_ne hup]
  simp

/-- **The directory that a name lies in** is the one that it is read from, whatever the name. -/
theorem exists_parent?_join (p : Path) :
    ∃ d : Path, d.components = p.components ∧
      ∀ n : Name, n.IsStep → (p.join ⟨n⟩).parent? = some d := by
  obtain ⟨ms, hpre, hms, hlayout⟩ := p.exists_layout_join
  have hleads := p.leads_pieces.of_isPrefix hpre
  have htrim : (ms.reverse.dropWhile Name.isNoise).reverse <+: ms := by
    simpa using trimmed_isPrefix ms.reverse
  refine ⟨p.anchor.path (ms.reverse.dropWhile Name.isNoise).reverse, ?_, fun n hn => ?_⟩
  · rw [components_path (hleads.of_isPrefix htrim), filterMap_trimmed, List.reverse_reverse,
      hms, components]
  · exact parent?_of_layout (hlayout n hn.no_separator fun _ => hn) hn.isNoise

/-- Behind a separator, or where nothing stands before it, a text is read as it is written. -/
theorem join_of_opens {before : List UInt8} (h : before = [] ∨ before.getLast? = some separator)
    (hn : separator ∉ n) : (⟨before⟩ : Path).join ⟨n⟩ = ⟨before ++ n⟩ := by
  rw [join, isAbsolute_of_not_mem hn, if_neg Bool.false_ne_true, if_pos h]

/-- The text of what is read from a directory: the same text stands in front of each name. -/
theorem exists_join_eq (p : Path) :
    ∃ before : List UInt8, ∀ n : Name, separator ∉ n → p.join ⟨n⟩ = ⟨before ++ n⟩ := by
  by_cases hp : p.bytes = [] ∨ p.bytes.getLast? = some separator
  · exact ⟨p.bytes, fun n hn => join_of_opens hp hn⟩
  · refine ⟨p.bytes ++ [separator], fun n hn => ?_⟩
    calc p.join ⟨n⟩
        = ⟨p.bytes ++ separator :: n⟩ := by
          rw [join, isAbsolute_of_not_mem hn, if_neg Bool.false_ne_true, if_neg hp]
      _ = ⟨p.bytes ++ [separator] ++ n⟩ := by rw [List.append_assoc, List.singleton_append]

/-- Names read from one directory are told apart by their text. -/
theorem join_right_injective {d : Path} {m : Name} (hn : separator ∉ n) (hm : separator ∉ m)
    (h : d.join ⟨n⟩ = d.join ⟨m⟩) : n = m := by
  obtain ⟨before, hbefore⟩ := d.exists_join_eq
  rw [hbefore n hn, hbefore m hm] at h
  exact List.append_cancel_left (congrArg Path.bytes h)

/-- Every path is what follows its last separator, read from the text before. -/
theorem exists_eq_join (p : Path) : ∃ (d : Path) (n : Name), separator ∉ n ∧ p = d.join ⟨n⟩ := by
  cases hcut : Text.cutAtLast? [separator] p.bytes with
  | none =>
      have hn := Text.not_mem_of_cutAtLast?_eq_none hcut
      exact ⟨⟨[]⟩, p.bytes, hn, (join_of_opens (.inl rfl) hn).symm⟩
  | some cut =>
      obtain ⟨before, n⟩ := cut
      have hn := Text.not_mem_of_cutAtLast? hcut
      have htext : p = ⟨before ++ [separator] ++ n⟩ := by
        have hbytes := Text.eq_of_cutAtLast? hcut
        rw [List.append_assoc, ← hbytes]
      exact ⟨⟨before ++ [separator]⟩, n, hn, htext.trans (join_of_opens (.inr (by simp)) hn).symm⟩

/-- The text of `p` ends in the name `n`: a separator stands in front of the name, or nothing. -/
structure TextEndsIn (p : Path) (n : Name) : Prop where
  isStep : n.IsStep
  ne_up : n ≠ Name.up
  text : ∃ before : List UInt8,
    (before = [] ∨ before.getLast? = some separator) ∧ p.bytes = before ++ n

/-- A name at the end of a text is read from the text before it. -/
theorem TextEndsIn.exists_join {p : Path} (h : p.TextEndsIn n) : ∃ d : Path, p = d.join ⟨n⟩ := by
  obtain ⟨before, hbefore, htext⟩ := h.text
  refine ⟨⟨before⟩, ?_⟩
  rw [join_of_opens hbefore h.isStep.no_separator, ← htext]

/-- What is read from a path that ends in a step stands behind one more separator. -/
theorem join_join (p : Path) {m : Name} (hn : n.IsStep) (hm : m.IsStep) :
    (p.join ⟨n⟩).join ⟨m⟩ = ⟨(p.join ⟨n⟩).bytes ++ separator :: m⟩ := by
  obtain ⟨before, hbefore⟩ := p.exists_join_eq
  rw [hbefore n hn.no_separator]
  obtain ⟨t, b, rfl⟩ := (n.eq_nil_or_concat').resolve_left hn.ne_nil
  have hb : b ≠ separator := fun e => hn.no_separator (by simp [e])
  refine join_step_of_getLast? hm (by simp) ?_
  rw [← List.append_assoc]
  simpa using hb

/-- A path that ends in a step is the directory of what is read from it, as it is spelled. -/
theorem parent?_join_join (p : Path) {m : Name} (hn : n.IsStep) (hm : m.IsStep) :
    ((p.join ⟨n⟩).join ⟨m⟩).parent? = some (p.join ⟨n⟩) := by
  have hne : (p.join ⟨n⟩).bytes ≠ [] := by
    obtain ⟨before, hbefore⟩ := p.exists_join_eq
    simp [hbefore n hn.no_separator, hn.ne_nil]
  have hpieces : (p.join ⟨n⟩).pieces.reverse.dropWhile Name.isNoise
      = (p.join ⟨n⟩).pieces.reverse := by
    obtain ⟨ms, -, -, hlayout⟩ := p.exists_layout_join
    rw [pieces, hlayout n hn.no_separator fun _ => hn]
    simp [hn.isNoise]
  have hlayout := layout_append_separator hne m
  rw [Text.pieces_of_not_mem hm.no_separator] at hlayout
  rw [join_join p hn hm, parent?_of_layout hlayout hm.isNoise, hpieces, List.reverse_reverse]
  exact congrArg some (p.join ⟨n⟩).path_layout

theorem parentOrSelf_eq {p d : Path} (h : p.parent? = some d) : p.parentOrSelf = d := by
  rw [parentOrSelf, h, Option.getD_some]

/-- A path without a directory lies in itself, any other in the first above it. -/
theorem parentOrSelf_cases (p : Path) :
    p.parents = [] ∧ p.parentOrSelf = p ∨ p.parentOrSelf.IsAbove p := by
  unfold parentOrSelf parent?
  cases hp : p.parents with
  | nil => exact .inl ⟨rfl, rfl⟩
  | cons q qs =>
      have hq : q ∈ p.parents := by simp [hp]
      exact .inr (isAbove_of_mem_parents hq)

theorem parentOrSelf_ne_nil {p : Path} (h : p.components.head? = some .root) :
    p.parentOrSelf.components ≠ [] := by
  rcases p.parentOrSelf_cases with ⟨-, hself⟩ | habove
  · rw [hself]
    intro hnil
    rw [hnil] at h
    cases h
  · exact habove.ne_nil (by simp [isAbsolute_eq_head?, h])

theorem parentOrSelf_isPrefix (p : Path) : p.parentOrSelf.components <+: p.components := by
  rcases p.parentOrSelf_cases with ⟨-, hself⟩ | habove
  · exact hself.symm ▸ List.prefix_rfl
  · exact habove.isPrefix

/-- An absolute path means at most one step more than its directory. -/
theorem length_components_le_parentOrSelf {p : Path} (habs : p.isAbsolute = true) :
    p.components.length ≤ p.parentOrSelf.components.length + 1 := by
  have hanchor : p.anchor = .root := by simpa [isAbsolute_eq] using habs
  cases hq : p.parent? with
  | none => simp [parentOrSelf, hq]
  | some q =>
      have hleads := p.leads_reverse_pieces
      rw [hanchor] at hleads
      rw [parent?, parents, hanchor] at hq
      obtain ⟨c, hc⟩ := components_of_head?_parentsFrom hleads hq
      have hself : Anchor.root.path p.pieces = p := hanchor ▸ p.path_layout
      rw [List.reverse_reverse, hself] at hc
      have hparent : p.parentOrSelf = q := parentOrSelf_eq (by rw [parent?, parents, hanchor, hq])
      rw [hparent, hc]
      simp

/-- Whatever follows the last separator, the directory of a path means no more than the text before
it does. -/
theorem parentOrSelf_join_isPrefix (p : Path) (hn : separator ∉ n) :
    (p.join ⟨n⟩).parentOrSelf.components <+: p.components := by
  rcases p.exists_components_join hn with hsame | ⟨c, hc, hmore⟩
  · rw [← hsame]
    exact parentOrSelf_isPrefix _
  · have habove : p.IsAbove (p.join ⟨n⟩) := by
      refine ⟨hmore ▸ List.prefix_append _ _, by simp [hmore], fun habs hnil => ?_⟩
      rw [isAbsolute_eq_head?, hmore, hnil] at habs
      exact hc (by simpa using habs)
    rcases (p.join ⟨n⟩).parentOrSelf_cases with ⟨hnil, -⟩ | hparent
    · obtain ⟨d, hd, -⟩ := exists_mem_parents_iff.2 habove
      rw [hnil] at hd
      cases hd
    · obtain ⟨hpre, hne, -⟩ := hparent
      rw [hmore] at hpre hne
      exact isPrefix_concat_and_ne_iff.1 ⟨hpre, hne⟩

/-! ## Extensions and partials -/

theorem appendExtension_join (p : Path) {e : Name} (hn : separator ∉ n) (hs : separator ∉ e) :
    (p.join ⟨n⟩).appendExtension e = p.join ⟨n ++ Name.dot :: e⟩ := by
  obtain ⟨before, hbefore⟩ := p.exists_join_eq
  have hdotted : separator ∉ n ++ Name.dot :: e := by
    have hdot : separator ≠ Name.dot := by decide
    simpa [hn, hdot] using hs
  rw [hbefore n hn, hbefore _ hdotted, appendExtension, List.append_assoc]

/-- The partial of a name is read from the directory that the name lies in. -/
theorem asPartial?_join {p dir : Path} (hdir : (p.join ⟨n⟩).parent? = some dir) (hn : n.IsStep)
    (hup : n ≠ Name.up) : (p.join ⟨n⟩).asPartial? = some (dir.join ⟨partialMark :: n⟩) := by
  calc (p.join ⟨n⟩).asPartial?
      = some ((p.join ⟨n⟩).withFileName (partialMark :: n)) := by
        rw [asPartial?, fileName?_join p hn hup, Option.map_some]
    _ = some (dir.join ⟨partialMark :: n⟩) := by
        rw [withFileName, fileName?_join p hn hup, hdir]
        rfl

end Path

end Stylesheet
