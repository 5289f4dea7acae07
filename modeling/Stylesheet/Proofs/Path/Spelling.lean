import Mathlib.Data.List.Induction
import Stylesheet.Path.Clean
import Stylesheet.Proofs.Text.Pieces

set_option autoImplicit false

/-! # The shortest spelling of a path

Among all texts with the same components one is the shortest: the start of the path, then
its names with single separators between them (`Anchor.spell`). A path written like this is
*tidy*. The components of a tidy path determine its text (`Tidy.eq_of_same`), and the
operations of the lookup lead from tidy paths to tidy paths, so that among them being the same
and being equal do not differ. Whatever `clean` gives is tidy (`clean_tidy`).
-/

namespace Stylesheet

/-! ## Names that are steps -/

/-- The component that a step means. -/
def Component.step (n : Name) : Component := if n = Name.up then .up else .name n

theorem Name.IsStep.isNoise {n : Name} (h : n.IsStep) : n.isNoise = false := by
  simp [Name.isNoise, h.ne_nil, h.ne_here]

theorem Name.IsStep.ofPiece? {n : Name} (h : n.IsStep) :
    Component.ofPiece? n = some (Component.step n) := by
  unfold Component.ofPiece? Component.step
  rw [h.isNoise, if_neg Bool.false_ne_true]
  split <;> rfl

theorem Component.ofPiece?_eq_none_iff {n : Name} :
    Component.ofPiece? n = none ↔ n.isNoise = true := by
  unfold Component.ofPiece?
  by_cases hn : n.isNoise = true
  · simp [hn]
  · rw [if_neg hn]
    split <;> simp [hn]

theorem Component.path_step (n : Name) : (Component.step n).path = ⟨n⟩ := by
  unfold Component.step
  split
  · next h => rw [h, Component.path]
  · rfl

@[simp] theorem Component.step_up : Component.step Name.up = .up := rfl

theorem Component.step_of_ne {n : Name} (h : n ≠ Name.up) : Component.step n = .name n :=
  if_neg h

theorem Component.step_injective : Function.Injective Component.step := by
  intro n m h
  unfold step at h
  split at h <;> split at h <;> simp_all

theorem Component.step_ne_here (n : Name) : Component.step n ≠ .here := by
  unfold step
  split <;> simp

/-! ## Starts and pieces -/

/-- Pieces that a text can have after its start: a `.` is followed by a separator, and where nothing
is written for the start the first piece is neither empty nor `.`. -/
structure Anchor.Leads (a : Anchor) (ms : List Name) : Prop where
  no_separator : ∀ m ∈ ms, Path.separator ∉ m
  head_here : a = .here → ∀ m ∈ ms.head?, m = []
  head_none : a = .none → ∀ m ∈ ms.head?, m ≠ [] ∧ m ≠ Name.here

/-- Fewer pieces can follow as well. -/
theorem Anchor.Leads.of_isPrefix {a : Anchor} {ms ms' : List Name} (h : a.Leads ms)
    (hpre : ms' <+: ms) : a.Leads ms' := by
  obtain ⟨rest, rfl⟩ := hpre
  have hhead : ∀ m ∈ ms'.head?, m ∈ (ms' ++ rest).head? := by
    intro m hm
    cases ms' with
    | nil => cases hm
    | cons b bs => exact hm
  exact ⟨fun m hm => h.no_separator m (List.mem_append_left rest hm),
    fun ha m hm => h.head_here ha m (hhead m hm), fun ha m hm => h.head_none ha m (hhead m hm)⟩

/-- The text of a start with pieces after it is read as that start and those pieces. -/
theorem Path.layout_path {a : Anchor} {ms : List Name} (h : a.Leads ms) (hne : ms ≠ []) :
    (a.path ms).layout = (a, ms) := by
  obtain ⟨hsep, hhere, hnone⟩ := h
  have hp := Text.pieces_join hne hsep
  obtain ⟨m, ms, rfl⟩ := List.exists_cons_of_ne_nil hne
  cases a with
  | root => simp [layout, Anchor.path, Anchor.bytes, hp]
  | here =>
      obtain rfl : m = [] := hhere rfl m rfl
      have hspell : Anchor.here.path ([] :: ms) = ⟨Text.join separator (Name.here :: ms)⟩ := by
        cases ms <;> rfl
      have hdot : Text.pieces (· == separator) (Text.join separator (Name.here :: ms))
          = Name.here :: ms := by
        refine Text.pieces_join (by simp) fun k hk => ?_
        rcases List.mem_cons.1 hk with rfl | hk
        · decide
        · exact hsep k (List.mem_cons_of_mem _ hk)
      obtain ⟨t, ht⟩ : ∃ t, Text.join separator (Name.here :: ms) = Name.dot :: t := by
        cases ms with
        | nil => exact ⟨[], rfl⟩
        | cons k ms => exact ⟨_, rfl⟩
      -- the dot at the start is cut off, and leaves an empty piece
      rw [ht] at hdot
      rw [hspell, ht, layout]
      simp only
      rw [if_neg (by decide), hdot]
      simp
  | none =>
      obtain ⟨hempty, hdot⟩ := hnone rfl m rfl
      obtain ⟨b, t, rfl⟩ := List.exists_cons_of_ne_nil hempty
      have hb : b ≠ separator := fun e => hsep (b :: t) (by simp) (by simp [e])
      obtain ⟨u, hu⟩ : ∃ u, Text.join separator ((b :: t) :: ms) = b :: u := by
        cases ms with
        | nil => exact ⟨t, rfl⟩
        | cons k ms => exact ⟨_, rfl⟩
      have hspell : Anchor.none.path ((b :: t) :: ms) = ⟨b :: u⟩ := by
        rw [Anchor.path, hu]
        rfl
      rw [hu] at hp
      rw [hspell, layout]
      simp only
      rw [if_neg hb, hp]
      simp [hdot]

/-! ## The shortest spelling -/

/-- The shortest text of a start with steps after it. -/
def Anchor.spell : Anchor → List Name → Path
  | .root, ns => ⟨Path.separator :: Text.join Path.separator ns⟩
  | .here, ns => ⟨Text.join Path.separator (Name.here :: ns)⟩
  | .none, ns => ⟨Text.join Path.separator ns⟩

namespace Path

variable {a : Anchor} {ns : List Name}

theorem join_ne_nil_of_steps (h : ∀ n ∈ ns, n.IsStep) (hne : ns ≠ []) :
    Text.join separator ns ≠ [] := by
  cases ns with
  | nil => exact absurd rfl hne
  | cons n ns =>
      have hn := (h n (by simp)).ne_nil
      cases ns <;> simp [Text.join, hn]

/-- Start and pieces of the shortest text. A start that is written needs an empty piece where
no step follows. -/
theorem layout_spell (h : ∀ n ∈ ns, n.IsStep) :
    (a.spell ns).layout =
      match a with
      | .root => (.root, if ns = [] then [[]] else ns)
      | .here => (.here, [] :: ns)
      | .none => (.none, ns) := by
  have hs : ∀ n ∈ ns, separator ∉ n := fun n hn => (h n hn).no_separator
  cases a with
  | root =>
      by_cases hne : ns = []
      · subst hne
        rfl
      · have hleads : Anchor.root.Leads ns := ⟨hs, by simp, by simp⟩
        rw [if_neg hne]
        exact layout_path hleads hne
  | here =>
      have hspell : Anchor.here.spell ns = Anchor.here.path ([] :: ns) := by
        cases ns <;> rfl
      have hleads : Anchor.here.Leads ([] :: ns) := ⟨by simpa using hs, by simp, by simp⟩
      rw [hspell]
      exact layout_path hleads (List.cons_ne_nil _ _)
  | none =>
      cases ns with
      | nil => rfl
      | cons n ns =>
          have hn := h n (by simp)
          have hleads : Anchor.none.Leads (n :: ns) :=
            ⟨hs, by simp, by simp [hn.ne_nil, hn.ne_here]⟩
          exact layout_path hleads (List.cons_ne_nil _ _)

theorem anchor_spell (h : ∀ n ∈ ns, n.IsStep) : (a.spell ns).anchor = a := by
  rw [anchor, layout_spell h]
  cases a <;> rfl

/-- Steps mean one component each. -/
theorem filterMap_steps (h : ∀ n ∈ ns, n.IsStep) :
    ns.filterMap Component.ofPiece? = ns.map Component.step := by
  rw [← List.filterMap_eq_map]
  exact List.filterMap_congr fun n hn => (h n hn).ofPiece?

/-- The components of the shortest text are the start and the steps. -/
theorem components_spell (h : ∀ n ∈ ns, n.IsStep) :
    (a.spell ns).components = a.components ++ ns.map Component.step := by
  have hf := filterMap_steps h
  rw [components, anchor, pieces, layout_spell h]
  cases a with
  | root =>
      by_cases hne : ns = []
      · subst hne
        rfl
      · simp [hne, hf]
  | here => rw [List.filterMap_cons_none (by rfl), hf]
  | none => simp only [hf]

/-- The last byte of steps is no separator. -/
theorem getLast?_join_ne_separator (h : ∀ n ∈ ns, n ≠ [] ∧ separator ∉ n) :
    (Text.join separator ns).getLast? ≠ some separator := by
  rcases ns.eq_nil_or_concat' with rfl | ⟨before, n, rfl⟩
  · simp [Text.join]
  · obtain ⟨hne, hsep⟩ := h n (by simp)
    rcases n.eq_nil_or_concat' with rfl | ⟨t, b, rfl⟩
    · exact absurd rfl hne
    · have hb : b ≠ separator := fun e => hsep (by simp [e])
      rw [Text.join_append_last, List.getLast?_append]
      simpa using hb

theorem isAbsolute_of_not_mem {n : Name} (hn : separator ∉ n) :
    (⟨n⟩ : Path).isAbsolute = false := by
  cases n with
  | nil => rfl
  | cons b n =>
      have hb : b ≠ separator := fun e => hn (by simp [e])
      simpa [isAbsolute] using hb

theorem isAbsolute_step {n : Name} (hn : n.IsStep) : (⟨n⟩ : Path).isAbsolute = false :=
  isAbsolute_of_not_mem hn.no_separator

/-- A step read from a path that neither is empty nor ends in a separator. -/
theorem join_step_of_getLast? {p : Path} {n : Name} (hn : n.IsStep) (hne : p.bytes ≠ [])
    (hlast : p.bytes.getLast? ≠ some separator) : p.join ⟨n⟩ = ⟨p.bytes ++ separator :: n⟩ := by
  rw [join, isAbsolute_step hn, if_neg Bool.false_ne_true, if_neg (not_or.2 ⟨hne, hlast⟩)]

/-- Reading one more step from a shortest text. -/
theorem join_spell (h : ∀ n ∈ ns, n.IsStep) {n : Name} (hn : n.IsStep) :
    (a.spell ns).join ⟨n⟩ = a.spell (ns ++ [n]) := by
  have hs : ∀ m ∈ ns, m ≠ [] ∧ separator ∉ m := fun m hm => ⟨(h m hm).ne_nil, (h m hm).no_separator⟩
  have hfirst := isAbsolute_step hn
  cases a with
  | root =>
      by_cases hne : ns = []
      · subst hne
        simp [Anchor.spell, join, hfirst, Text.join]
      · have hj := join_ne_nil_of_steps h hne
        rw [join_step_of_getLast? hn (by simp [Anchor.spell])]
        · simp [Anchor.spell, Text.join_concat _ hne]
        · obtain ⟨b, t, hb⟩ := List.exists_cons_of_ne_nil hj
          have hl := getLast?_join_ne_separator hs
          simp only [Anchor.spell]
          rw [hb] at hl ⊢
          rwa [List.getLast?_cons_cons]
  | here =>
      have hs' : ∀ m ∈ Name.here :: ns, m ≠ [] ∧ separator ∉ m := by
        intro m hm
        rcases List.mem_cons.1 hm with rfl | hm
        · decide
        · exact hs m hm
      show Path.join ⟨Text.join separator (Name.here :: ns)⟩ ⟨n⟩ = _
      rw [join_step_of_getLast? hn _ (getLast?_join_ne_separator hs')]
      · simp only [Anchor.spell]
        rw [← List.cons_append, Text.join_concat _ (List.cons_ne_nil _ _)]
      · cases ns <;> simp [Text.join, Name.here]
  | none =>
      by_cases hne : ns = []
      · subst hne
        simp [Anchor.spell, join, hfirst, Text.join]
      · show Path.join ⟨Text.join separator ns⟩ ⟨n⟩ = _
        rw [join_step_of_getLast? hn (join_ne_nil_of_steps h hne) (getLast?_join_ne_separator hs)]
        simp [Anchor.spell, Text.join_concat _ hne]

/-- Components of a start and steps spell the shortest text. -/
theorem ofComponents_spell (h : ∀ n ∈ ns, n.IsStep) :
    ofComponents (a.components ++ ns.map Component.step) = a.spell ns := by
  induction ns using List.reverseRecOn with
  | nil => cases a <;> rfl
  | append_singleton before n ih =>
      have hb : ∀ m ∈ before, m.IsStep := fun m hm => h m (by simp [hm])
      calc ofComponents (a.components ++ (before ++ [n]).map Component.step)
          = (ofComponents (a.components ++ before.map Component.step)).join
              (Component.step n).path := by
            rw [ofComponents, List.map_append, ← List.append_assoc, List.foldl_append]
            rfl
        _ = (a.spell before).join ⟨n⟩ := by rw [ih hb, Component.path_step]
        _ = a.spell (before ++ [n]) := join_spell hb (h n (by simp))

/-! ## Tidy paths -/

/-- A path with the shortest text that its components have. -/
def Tidy (p : Path) : Prop := ∃ (a : Anchor) (ns : List Name), (∀ n ∈ ns, n.IsStep) ∧ p = a.spell ns

theorem tidy_spell (h : ∀ n ∈ ns, n.IsStep) : (a.spell ns).Tidy := ⟨a, ns, h, rfl⟩

theorem separator_not_mem_of_mem_pieces {p : Path} {n : Name} (h : n ∈ p.pieces) :
    separator ∉ n := by
  have key : ∀ bs : List UInt8, ∀ m ∈ Text.pieces (· == separator) bs, separator ∉ m :=
    fun bs m hm hs => by simpa using Text.not_sep_of_mem_pieces hm hs
  obtain ⟨bs⟩ := p
  unfold pieces layout at h
  cases bs with
  | nil => simp at h
  | cons b rest =>
      by_cases hb : b = separator
      · exact key rest n (by simpa [hb] using h)
      · cases hp : Text.pieces (· == separator) (b :: rest) with
        | nil => exact absurd hp (Text.pieces_ne_nil _ _)
        | cons first others =>
            have hk := key (b :: rest)
            rw [hp] at hk
            by_cases hf : first = Name.here
            · simp only [hb, hp, hf, if_true, if_false, List.mem_cons] at h
              rcases h with rfl | h
              · simp
              · exact hk n (by simp [h])
            · simp only [hb, hp, hf, if_false] at h
              exact hk n h

/-- The components of any path are those of its start and its steps. -/
theorem components_eq_steps (p : Path) :
    ∃ ns : List Name, (∀ n ∈ ns, n.IsStep) ∧
      p.components = p.anchor.components ++ ns.map Component.step := by
  refine ⟨p.pieces.filter fun n => !n.isNoise, ?_, ?_⟩
  · intro n hn
    obtain ⟨hmem, hnoise⟩ := List.mem_filter.1 hn
    simp only [Name.isNoise, Bool.not_or, Bool.and_eq_true, Bool.not_eq_true',
      beq_eq_false_iff_ne] at hnoise
    exact ⟨hnoise.1, hnoise.2, separator_not_mem_of_mem_pieces hmem⟩
  · rw [components, ← List.filterMap_eq_map, List.filterMap_filter]
    congr 1
    refine List.filterMap_congr fun n _ => ?_
    unfold Component.ofPiece? Component.step
    cases n.isNoise <;> simp [apply_ite]

theorem Tidy.ofComponents {p : Path} (h : p.Tidy) : ofComponents p.components = p := by
  obtain ⟨a, ns, hs, rfl⟩ := h
  rw [components_spell hs, ofComponents_spell hs]

/-- Every path has a tidy spelling. -/
theorem ofComponents_tidy (p : Path) : (ofComponents p.components).Tidy := by
  obtain ⟨ns, hs, hc⟩ := p.components_eq_steps
  rw [hc, ofComponents_spell hs]
  exact tidy_spell hs

theorem same_ofComponents (p : Path) : p.same (ofComponents p.components) = true := by
  obtain ⟨ns, hs, hc⟩ := p.components_eq_steps
  rw [same_iff, hc, ofComponents_spell hs, components_spell hs]

/-- Tidy paths that are the same are equal. -/
theorem Tidy.eq_of_same {p q : Path} (hp : p.Tidy) (hq : q.Tidy) (h : p.same q = true) : p = q := by
  rw [← hp.ofComponents, ← hq.ofComponents, same_iff.1 h]

/-- Among tidy paths one is met again only as itself. -/
theorem any_same_iff {seen : List Path} (hseen : ∀ q ∈ seen, q.Tidy) {p : Path} (hp : p.Tidy) :
    seen.any (·.same p) = true ↔ p ∈ seen := by
  rw [List.any_eq_true]
  constructor
  · rintro ⟨q, hq, hsame⟩
    exact (hseen q hq).eq_of_same hp hsame ▸ hq
  · intro hmem
    exact ⟨p, hmem, p.same_refl⟩

/-! ## Clean paths are tidy -/

theorem isAbsolute_eq (p : Path) : p.isAbsolute = decide (p.anchor = .root) := by
  obtain ⟨bs⟩ := p
  cases bs with
  | nil => rfl
  | cons b rest =>
      by_cases hb : b = separator
      · simp [isAbsolute, anchor, layout, hb]
      · have ha : (⟨b :: rest⟩ : Path).isAbsolute = false := by simpa [isAbsolute] using hb
        rw [ha, eq_comm, decide_eq_false_iff_not, anchor, layout]
        simp only [hb, if_false]
        split
        · split <;> simp
        · simp

theorem isStep_up : Name.up.IsStep := ⟨by decide, by decide, by decide⟩

/-- Components read from the last one on that spell a start other than `.` and steps. -/
def Settled (a : Anchor) (done : List Component) : Prop :=
  ∃ ns : List Name, (∀ n ∈ ns, n.IsStep) ∧ done = (ns.map Component.step).reverse ++ a.components

/-- One more step keeps components settled. -/
theorem Settled.settle {done : List Component} (ha : a ≠ .here) (h : Settled a done) {n : Name}
    (hn : n.IsStep) : Settled a (settle done (Component.step n)) := by
  obtain ⟨ns, hns, rfl⟩ := h
  have hmore : ∀ m : Name, m.IsStep →
      Settled a (Component.step m :: ((ns.map Component.step).reverse ++ a.components)) :=
    fun m hm => ⟨ns ++ [m], by
      intro k hk
      rcases List.mem_append.1 hk with hk | hk
      · exact hns k hk
      · exact List.mem_singleton.1 hk ▸ hm, by simp⟩
  by_cases hup : n = Name.up
  · subst hup
    rcases ns.eq_nil_or_concat' with rfl | ⟨before, m, rfl⟩
    · cases a with
      | root => exact ⟨[], by simp, rfl⟩
      | here => exact absurd rfl ha
      | none => exact hmore Name.up isStep_up
    · have hb : ∀ k ∈ before, k.IsStep := fun k hk => hns k (by simp [hk])
      by_cases hm : m = Name.up
      · subst hm
        have hsettled := hmore Name.up isStep_up
        simpa [Path.settle] using hsettled
      · refine ⟨before, hb, ?_⟩
        simp [Path.settle, Component.step_of_ne hm]
  · have hsettled := hmore n hn
    rw [Component.step_of_ne hup] at hsettled ⊢
    exact hsettled

theorem Settled.foldl {done : List Component} (ha : a ≠ .here) (h : Settled a done)
    (hns : ∀ n ∈ ns, n.IsStep) : Settled a ((ns.map Component.step).foldl Path.settle done) := by
  induction ns generalizing done with
  | nil => exact h
  | cons n ns ih =>
      exact ih (h.settle ha (hns n (by simp))) fun m hm => hns m (List.mem_cons_of_mem n hm)

def cleanAnchor (p : Path) : Anchor := if p.isAbsolute then .root else .none

theorem cleanAnchor_ne_here (p : Path) : p.cleanAnchor ≠ .here := by
  unfold cleanAnchor
  split <;> simp

/-- The components of a clean path spell a start other than `.` and steps. -/
theorem cleanComponents_eq (p : Path) :
    ∃ ns : List Name, (∀ n ∈ ns, n.IsStep) ∧
      cleanComponents p.components = p.cleanAnchor.components ++ ns.map Component.step := by
  obtain ⟨ns, hns, hc⟩ := p.components_eq_steps
  have hstart : Settled p.cleanAnchor (p.anchor.components.foldl Path.settle []) := by
    refine ⟨[], by simp, ?_⟩
    rw [cleanAnchor, isAbsolute_eq]
    cases p.anchor <;> rfl
  obtain ⟨ms, hms, hm⟩ := hstart.foldl p.cleanAnchor_ne_here hns
  refine ⟨ms, hms, ?_⟩
  calc cleanComponents p.components
      = ((ms.map Component.step).reverse ++ p.cleanAnchor.components).reverse := by
        rw [cleanComponents, hc, List.foldl_append, hm]
    _ = p.cleanAnchor.components.reverse ++ ms.map Component.step := by
        rw [List.reverse_append, List.reverse_reverse]
    _ = p.cleanAnchor.components ++ ms.map Component.step := by
        unfold cleanAnchor
        split <;> rfl

/-- A clean path is written shortest; without a component it is `.`. -/
theorem clean_eq_spell (p : Path) :
    ∃ ns : List Name, (∀ n ∈ ns, n.IsStep) ∧
      p.clean = (if p.isAbsolute then Anchor.root.spell ns
        else if ns = [] then Anchor.here.spell [] else Anchor.none.spell ns) := by
  obtain ⟨ns, hns, hc⟩ := p.cleanComponents_eq
  refine ⟨ns, hns, ?_⟩
  unfold clean
  rw [hc, cleanAnchor]
  by_cases habs : p.isAbsolute = true
  · simp only [habs, if_true]
    exact ofComponents_spell hns
  · rw [if_neg habs, if_neg habs]
    cases ns with
    | nil => rfl
    | cons n ns => exact @ofComponents_spell .none _ hns

theorem clean_tidy (p : Path) : p.clean.Tidy := by
  obtain ⟨ns, hns, hc⟩ := p.clean_eq_spell
  rw [hc]
  split
  · exact tidy_spell hns
  · split
    · exact tidy_spell (by simp)
    · exact tidy_spell hns

theorem tidy_of_clean_eq {p : Path} (h : p.clean = p) : p.Tidy := h ▸ p.clean_tidy

end Path

end Stylesheet
