import Mathlib.Data.List.Induction
import Stylesheet.Path.Relative
import Stylesheet.Proofs.Path.Ancestors
import Stylesheet.Proofs.Path.Joining
import Stylesheet.Proofs.Path.Rooted

set_option autoImplicit false

/-! # The way from one path to another

Two absolute paths share names from the root on and then part (`Fork`). The way from one to the
other goes up as often as names are left on the one side and down by the names on the other
(`exists_fork`). Read from where it starts and cleaned it leads there, if nothing on the way up is
`..`: a `..` is a step to go up over, but it is no step down, so each takes the way two directories
too far up (`Fork.clean_join_upDown`). Between clean paths the way is the one that goes up least, and
no other clean path that leads there is shorter (`relativeTo?_inverts_join`).
-/

namespace Stylesheet.Path

variable {p q base target : Path} {ns ms bs : List Name}

/-! ## Steps -/

/-- A path that is no absolute one is the steps that it takes. -/
theorem route_of_spell (hns : ∀ n ∈ ns, n.IsStep) :
    (Anchor.none.spell ns).route = ns.map Component.step := by
  have hcomponents : (Anchor.none.spell ns).components = ns.map Component.step :=
    components_spell hns
  rw [route, hcomponents, filter_steps]

/-- A relative path is steps, apart from a `.` that it may start with. -/
theorem exists_steps_of_relative (h : p.isAbsolute = false) :
    ∃ ns : List Name, (∀ n ∈ ns, n.IsStep) ∧ p.route = ns.map Component.step ∧
      ns.length ≤ p.components.length := by
  obtain ⟨ns, hns, hc⟩ := p.components_eq_steps
  have hanchor : p.anchor ≠ .root := by simpa [isAbsolute_eq] using h
  refine ⟨ns, hns, ?_, by simp [hc]⟩
  rw [route, hc, List.filter_append, filter_steps]
  cases ha : p.anchor with
  | root => exact absurd ha hanchor
  | here => rfl
  | none => rfl

/-- What a relative path read from an absolute one is cleaned to. -/
theorem clean_join_steps (hbs : ∀ n ∈ bs, n.IsStep)
    (hbase : base.components = .root :: bs.map Component.step) (hns : ∀ n ∈ ns, n.IsStep)
    (hrel : q.isAbsolute = false) (hq : q.route = ns.map Component.step) :
    (base.join q).clean = Anchor.root.spell (ns.foldl advance (bs.foldl advance [])).reverse := by
  rw [← List.foldl_append]
  refine clean_of_route (fun n hn => (List.mem_append.1 hn).elim (hbs n) (hns n)) ?_
  rw [route_join hrel, route_of_components hbase, hq, List.map_append, List.cons_append]

/-! ## Going up and down -/

theorem foldl_advance_ups (k : Nat) (ms : List Name) :
    (List.replicate k Name.up).foldl advance ms = ms.drop k := by
  induction k generalizing ms with
  | zero => rfl
  | succ k ih =>
      calc (List.replicate (k + 1) Name.up).foldl advance ms
          = (advance ms Name.up).drop k := by rw [List.replicate_succ, List.foldl_cons, ih]
        _ = ms.drop (k + 1) := by rw [advance, if_pos rfl, List.drop_tail]

/-- Up again as often as steps were taken: a step that was itself up takes two names back. -/
theorem drop_foldl_advance (ns ms : List Name) :
    (ns.foldl advance ms).drop ns.length = ms.drop (2 * ns.count Name.up) := by
  induction ns generalizing ms with
  | nil => rfl
  | cons n ns ih =>
      rw [List.foldl_cons, List.length_cons, ← List.drop_drop, ih, List.drop_drop]
      by_cases hn : n = Name.up
      · rw [advance, if_pos hn, List.drop_tail, hn, List.count_cons_self, Nat.mul_succ]
      · rw [advance, if_neg hn, List.drop_succ_cons, List.count_cons_of_ne hn]

/-- Steps take some names back and write others, no more of both than there are steps. -/
theorem exists_foldl_advance (ns ms : List Name) : ∃ (xs : List Name) (j : Nat),
    ns.foldl advance ms = xs ++ ms.drop j ∧ xs.length + j ≤ ns.length := by
  induction ns using List.reverseRecOn with
  | nil => exact ⟨[], 0, rfl, le_refl _⟩
  | append_singleton ns n ih =>
      obtain ⟨xs, j, hxs, hle⟩ := ih
      have hlast : (ns ++ [n]).foldl advance ms = advance (xs ++ ms.drop j) n := by
        rw [List.foldl_append, hxs, List.foldl_cons, List.foldl_nil]
      rw [hlast, List.length_append, List.length_singleton, advance]
      split
      · cases xs with
        | nil =>
            refine ⟨[], j + 1, ?_, by simpa using hle⟩
            rw [List.nil_append, List.nil_append, List.tail_drop]
        | cons x xs =>
            rw [List.length_cons] at hle
            exact ⟨xs, j, rfl, by omega⟩
      · exact ⟨n :: xs, j, rfl, by rw [List.length_cons]; omega⟩

/-! ## Common starts -/

theorem take_commonLength (as bs : List Component) :
    as.take (commonLength as bs) = bs.take (commonLength as bs) := by
  induction as generalizing bs with
  | nil => simp [commonLength]
  | cons a as ih =>
      cases bs with
      | nil => simp [commonLength]
      | cons b bs =>
          rw [commonLength]
          split
          · next h => rw [h, List.take_succ_cons, List.take_succ_cons, ih]
          · rfl

/-- Nothing longer is common. -/
theorem length_le_commonLength {cs as bs : List Component} (ha : cs <+: as) (hb : cs <+: bs) :
    cs.length ≤ commonLength as bs := by
  induction cs generalizing as bs with
  | nil => exact Nat.zero_le _
  | cons c cs ih =>
      obtain ⟨as', rfl⟩ := ha
      obtain ⟨bs', rfl⟩ := hb
      have hrest := ih (List.prefix_append cs as') (List.prefix_append cs bs')
      rw [List.cons_append, List.cons_append, commonLength, if_pos rfl]
      exact Nat.succ_le_succ hrest

def upDown (k : Nat) (down : List Name) : List Name := List.replicate k Name.up ++ down

theorem isStep_upDown {k : Nat} {down : List Name} (h : ∀ n ∈ down, n.IsStep) :
    ∀ n ∈ upDown k down, n.IsStep := by
  intro n hn
  rcases List.mem_append.1 hn with hn | hn
  · rw [(List.mem_replicate.1 hn).2]
    exact isStep_up
  · exact h n hn

/-- The path of steps; that of no step is `.`. -/
def wayOf (ns : List Name) : Path := if ns = [] then ⟨Name.here⟩ else Anchor.none.spell ns

/-- The way goes up over what is left of the one path and down by what is left of the other. -/
theorem relativeTo?_of_steps {ts : List Name} (hts : ∀ n ∈ ts, n.IsStep)
    (ht : target.components = .root :: ts.map Component.step)
    (hb : base.components = .root :: bs.map Component.step) {k : Nat}
    (hk : commonLength (ts.map Component.step) (bs.map Component.step) = k) :
    target.relativeTo? base = some (wayOf (upDown (bs.drop k).length (ts.drop k))) := by
  have hdown : ∀ n ∈ upDown (bs.drop k).length (ts.drop k), n.IsStep :=
    isStep_upDown fun n hn => hts n (List.mem_of_mem_drop hn)
  have hcommon : commonLength target.components base.components = k + 1 := by
    rw [ht, hb, commonLength, if_pos rfl, hk]
  have hsteps : (base.components.drop (k + 1)).map (fun _ => Component.up)
        ++ target.components.drop (k + 1)
      = (upDown (bs.drop k).length (ts.drop k)).map Component.step := by
    have hup : (base.components.drop (k + 1)).map (fun _ => Component.up)
        = List.replicate (bs.drop k).length .up := by
      rw [hb, List.drop_succ_cons, ← List.map_drop, List.map_const', List.length_map]
    have hdown : target.components.drop (k + 1) = (ts.drop k).map Component.step := by
      rw [ht, List.drop_succ_cons, List.map_drop]
    rw [hup, hdown, upDown, List.map_append, List.map_replicate, Component.step_up]
  have hspell := @ofComponents_spell .none _ hdown
  rw [show Anchor.none.components = [] from rfl, List.nil_append] at hspell
  have hempty : Anchor.none.spell (upDown (bs.drop k).length (ts.drop k)) = empty ↔
      upDown (bs.drop k).length (ts.drop k) = [] := by
    constructor
    · intro h
      by_contra hne
      exact join_ne_nil_of_steps hdown hne (congrArg Path.bytes h)
    · intro h
      rw [h]
      rfl
  have hhead : target.components.head? = base.components.head? := by
    rw [ht, hb]
    rfl
  rw [relativeTo?, if_pos hhead]
  simp only [hcommon, hsteps, hspell, hempty]
  rw [wayOf, ← apply_ite some]

/-- Two absolute paths as the steps that they share from the root on, and what is left of each. -/
structure Fork (target base : Path) where
  shared : List Name
  /-- What follows in the path that the way starts from. -/
  behind : List Name
  /-- What follows in the path that the way leads to. -/
  ahead : List Name
  isStep_base : ∀ n ∈ shared ++ behind, n.IsStep
  isStep_target : ∀ n ∈ shared ++ ahead, n.IsStep
  base_eq : base.components = .root :: (shared ++ behind).map Component.step
  target_eq : target.components = .root :: (shared ++ ahead).map Component.step
  longest : ∀ ms : List Name, ms <+: shared ++ behind → ms <+: shared ++ ahead →
    ms.length ≤ shared.length

/-- The steps of the way from where two paths part. -/
def Fork.steps (f : Fork target base) : List Name := upDown f.behind.length f.ahead

/-- **The way from an absolute path to another** goes up to where they part, and then down. -/
theorem exists_fork (ht : target.isAbsolute = true) (hb : base.isAbsolute = true) :
    ∃ f : Fork target base, target.relativeTo? base = some (wayOf f.steps) := by
  obtain ⟨ts, hts, htarget⟩ := exists_steps_of_isAbsolute ht
  obtain ⟨bs, hbs, hbase⟩ := exists_steps_of_isAbsolute hb
  generalize hk : commonLength (ts.map Component.step) (bs.map Component.step) = k
  have htake : ts.take k = bs.take k := by
    refine (List.map_injective_iff.2 Component.step_injective) ?_
    rw [List.map_take, List.map_take, ← hk, take_commonLength]
  have htarget' : ts.take k ++ ts.drop k = ts := List.take_append_drop k ts
  have hbase' : ts.take k ++ bs.drop k = bs := by rw [htake, List.take_append_drop]
  refine ⟨⟨ts.take k, bs.drop k, ts.drop k, by rwa [hbase'], by rwa [htarget'], by rwa [hbase'],
    by rwa [htarget'], fun ms hup hdown => ?_⟩, relativeTo?_of_steps hts htarget hbase hk⟩
  rw [hbase'] at hup
  rw [htarget'] at hdown
  have hle := length_le_commonLength (hdown.map Component.step) (hup.map Component.step)
  rw [List.length_map, hk] at hle
  rw [List.length_take]
  exact le_min hle hdown.length_le

/-! ## Where the way leads -/

theorem isAbsolute_wayOf (hns : ∀ n ∈ ns, n.IsStep) : (wayOf ns).isAbsolute = false := by
  rw [wayOf]
  split
  · rfl
  · rw [isAbsolute_eq, anchor_spell hns]
    rfl

theorem route_wayOf (hns : ∀ n ∈ ns, n.IsStep) : (wayOf ns).route = ns.map Component.step := by
  rw [wayOf]
  split
  · next h =>
      rw [h]
      rfl
  · exact route_of_spell hns

/-- The way of no step is one component, and any other its steps. -/
theorem length_components_wayOf (hns : ∀ n ∈ ns, n.IsStep) :
    (wayOf ns).components.length = max 1 ns.length := by
  rw [wayOf]
  split
  · next h =>
      rw [h]
      rfl
  · next h =>
      have hpos := List.length_pos_of_ne_nil h
      rw [components_spell hns, List.length_append, List.length_map]
      exact (Nat.zero_add _).trans (max_eq_right hpos).symm

theorem wayOf_eq_here_iff (hns : ∀ n ∈ ns, n.IsStep) : wayOf ns = ⟨Name.here⟩ ↔ ns = [] := by
  rw [wayOf]
  split
  · next h => exact iff_of_true rfl h
  · next h =>
      refine iff_of_false (fun heq => ?_) h
      have hhere : (.here : Component) ∈ ns.map Component.step := by
        have hcomponents : (Anchor.none.spell ns).components = ns.map Component.step :=
          components_spell hns
        rw [← hcomponents, heq]
        exact List.mem_singleton.2 rfl
      obtain ⟨n, -, hn⟩ := List.mem_map.1 hhere
      exact Component.step_ne_here n hn

theorem spell_injective {a : Anchor} (hns : ∀ n ∈ ns, n.IsStep) (hms : ∀ m ∈ ms, m.IsStep)
    (h : a.spell ns = a.spell ms) : ns = ms := by
  have hcomponents := congrArg components h
  rw [components_spell hns, components_spell hms] at hcomponents
  exact List.map_injective_iff.2 Component.step_injective (List.append_cancel_left hcomponents)

namespace Fork

variable (f : Fork target base)

theorem isStep_ahead : ∀ n ∈ f.ahead, n.IsStep :=
  fun n hn => f.isStep_target n (List.mem_append_right _ hn)

theorem isStep_steps : ∀ n ∈ f.steps, n.IsStep := isStep_upDown f.isStep_ahead

/-- **Where a way leads** that goes up to where the paths part, if nothing shared is `..`: to the
names that are shared, but for two of them for each `..` on the way up, and then to those below. -/
theorem clean_join_upDown {down : List Name} (hshared : ∀ n ∈ f.shared, n ≠ Name.up)
    (hdown : ∀ n ∈ down, n.IsStep ∧ n ≠ Name.up) :
    (base.join (wayOf (upDown f.behind.length down))).clean = Anchor.root.spell
      (f.shared.take (f.shared.length - 2 * f.behind.count Name.up) ++ down) := by
  have hsteps := isStep_upDown (k := f.behind.length) fun n hn => (hdown n hn).1
  have hreached := foldl_advance_names hshared []
  have hbelow := foldl_advance_names fun n hn => (hdown n hn).2
  have hnames : (upDown f.behind.length down).foldl advance
        ((f.shared ++ f.behind).foldl advance [])
      = down.reverse ++ f.shared.reverse.drop (2 * f.behind.count Name.up) := by
    calc (upDown f.behind.length down).foldl advance ((f.shared ++ f.behind).foldl advance [])
        = down.foldl advance
            ((f.behind.foldl advance (f.shared.foldl advance [])).drop f.behind.length) := by
          rw [upDown, List.foldl_append, List.foldl_append, foldl_advance_ups]
      _ = down.foldl advance (f.shared.reverse.drop (2 * f.behind.count Name.up)) := by
          rw [drop_foldl_advance, hreached, List.append_nil]
      _ = down.reverse ++ f.shared.reverse.drop (2 * f.behind.count Name.up) := hbelow _
  rw [clean_join_steps f.isStep_base f.base_eq hsteps (isAbsolute_wayOf hsteps)
    (route_wayOf hsteps), hnames, List.drop_reverse, List.reverse_append, List.reverse_reverse,
    List.reverse_reverse]

/-- Such a way leads to a path without `..` exactly if it goes down by the names of that path, and
if it goes up over no `..` or nothing is shared that a `..` could take back. -/
theorem clean_join_upDown_iff {down : List Name} (h : ∀ n ∈ f.shared ++ f.ahead, n ≠ Name.up)
    (hdown : ∀ n ∈ down, n.IsStep ∧ n ≠ Name.up) (hlength : down.length = f.ahead.length) :
    (base.join (wayOf (upDown f.behind.length down))).clean = target.clean ↔
      down = f.ahead ∧ (Name.up ∉ f.behind ∨ f.shared = []) := by
  have hshared : ∀ n ∈ f.shared, n ≠ Name.up := fun n hn => h n (List.mem_append_left _ hn)
  have htarget : target.clean = Anchor.root.spell (f.shared ++ f.ahead) :=
    clean_of_names f.isStep_target h f.target_eq
  have hreached : ∀ n ∈ f.shared.take (f.shared.length - 2 * f.behind.count Name.up) ++ down,
      n.IsStep := by
    intro n hn
    rcases List.mem_append.1 hn with hn | hn
    · exact f.isStep_target n (List.mem_append_left _ (List.mem_of_mem_take hn))
    · exact (hdown n hn).1
  rw [f.clean_join_upDown hshared hdown, htarget, ← List.count_eq_zero, ← List.length_eq_zero_iff]
  constructor
  · intro heq
    obtain ⟨htake, hnames⟩ :=
      List.append_inj' (spell_injective hreached f.isStep_target heq) hlength
    have hleft := congrArg List.length htake
    rw [List.length_take] at hleft
    exact ⟨hnames, by omega⟩
  · rintro ⟨rfl, hnone⟩
    rw [List.take_of_length_le (by omega)]

/-- Whoever comes from the one path to the other by taking `j` names back goes up as far as the way
does at least, and takes as many steps at least. -/
theorem length_le {xs : List Name} {j : Nat}
    (h : (f.shared ++ f.ahead).reverse = xs ++ (f.shared ++ f.behind).reverse.drop j) :
    f.behind.length ≤ j ∧ f.behind.length + f.ahead.length ≤ xs.length + j := by
  have hahead : f.shared ++ f.ahead
      = (f.shared ++ f.behind).take ((f.shared ++ f.behind).length - j) ++ xs.reverse := by
    rw [← List.reverse_inj, h, List.drop_reverse, List.reverse_append, List.reverse_reverse]
  have hpre : (f.shared ++ f.behind).take ((f.shared ++ f.behind).length - j)
      <+: f.shared ++ f.ahead := by
    rw [hahead]
    exact List.prefix_append _ _
  have hlongest := f.longest _ (List.take_prefix _ _) hpre
  have hlength := congrArg List.length hahead
  simp only [List.length_append, List.length_take, List.length_reverse] at hlongest hlength
  omega

end Fork

/-! ## Clean paths -/

/-- The directories above a path of steps below the root, the nearest one first. -/
theorem parents_spell_concat (hns : ∀ m ∈ ns, m.IsStep) {n : Name} (hn : n.IsStep) :
    (Anchor.root.spell (ns ++ [n])).parents = (Anchor.root.spell ns).ancestors := by
  have hall := steps_concat hns hn
  have hnoise : ns.reverse.dropWhile Name.isNoise = ns.reverse := by
    cases h : ns.reverse with
    | nil => rfl
    | cons m ms =>
        have hm : m ∈ ns := List.mem_reverse.1 (h ▸ List.mem_cons_self)
        rw [List.dropWhile_cons_of_neg (by simp [(hns m hm).isNoise])]
  have hself : parentsFrom .root ns.reverse = (Anchor.root.spell ns).parents := by
    by_cases hnil : ns = []
    · rw [hnil]
      rfl
    · rw [parents, anchor_spell hns, pieces_spell hns hnil]
      rfl
  calc (Anchor.root.spell (ns ++ [n])).parents
      = parentsFrom .root (n :: ns.reverse) := by
        rw [parents, anchor_spell hall, pieces_spell hall (by simp)]
        simp [gap]
    _ = Anchor.root.path (ns.reverse.dropWhile Name.isNoise).reverse
          :: parentsFrom .root ns.reverse := by
        rw [parentsFrom, hn.isNoise, if_neg Bool.false_ne_true]
    _ = (Anchor.root.spell ns).ancestors := by
        rw [hnoise, List.reverse_reverse, hself]
        rfl

/-- The directories above a path of steps below the root are spelled by the beginnings of these. -/
theorem mem_ancestors_spell (hns : ∀ n ∈ ns, n.IsStep) :
    p ∈ (Anchor.root.spell ns).ancestors ↔ ∃ ms, ms <+: ns ∧ p = Anchor.root.spell ms := by
  induction ns using List.reverseRecOn with
  | nil =>
      have hroot : (Anchor.root.spell []).ancestors = [Anchor.root.spell []] := rfl
      simp [hroot]
  | append_singleton ns n ih =>
      have hbefore : ∀ m ∈ ns, m.IsStep := fun m hm => hns m (by simp [hm])
      rw [ancestors, parents_spell_concat hbefore (hns n (by simp)), List.mem_cons, ih hbefore]
      simp only [List.prefix_concat_iff, or_and_right, exists_or, exists_eq_left]

/-- The lowest directory that two paths are or lie below. -/
structure IsMeeting (top p q : Path) : Prop where
  mem_left : top ∈ p.ancestors
  mem_right : top ∈ q.ancestors
  lowest : ∀ d ∈ p.ancestors, d ∈ q.ancestors → d ∈ top.ancestors

/-- A way up `k` times and then down by names leads from `base` to `target`. -/
def LeadsUp (base target : Path) (k : Nat) : Prop :=
  ∃ ns : List Name, (∀ n ∈ ns, n.IsStep ∧ n ≠ Name.up) ∧
    (base.join (wayOf (upDown k ns))).clean = target

theorem Rooted.names_of_components (h : p.Rooted)
    (hc : p.components = .root :: ns.map Component.step) :
    (∀ n ∈ ns, n ≠ Name.up) ∧ p = Anchor.root.spell ns := by
  obtain ⟨ms, hms, rfl⟩ := h
  have hcomponents : (Anchor.root.spell ms).components = .root :: ms.map Component.step :=
    components_spell fun m hm => (hms m hm).1
  rw [hcomponents] at hc
  obtain rfl := List.map_injective_iff.2 Component.step_injective (List.cons.inj hc).2
  exact ⟨fun m hm => (hms m hm).2, rfl⟩

namespace Fork

variable (f : Fork target base)

/-- The way between clean paths leads where it should. -/
theorem clean_join_of_rooted (ht : target.Rooted) (hb : base.Rooted) :
    (base.join (wayOf f.steps)).clean = target := by
  obtain ⟨hnames, -⟩ := ht.names_of_components f.target_eq
  obtain ⟨hbase, -⟩ := hb.names_of_components f.base_eq
  have hup : Name.up ∉ f.behind := fun hmem => hbase _ (List.mem_append_right _ hmem) rfl
  have hahead : ∀ n ∈ f.ahead, n.IsStep ∧ n ≠ Name.up := fun n hn =>
    ⟨f.isStep_ahead n hn, hnames n (List.mem_append_right _ hn)⟩
  rw [steps, (f.clean_join_upDown_iff hnames hahead rfl).2 ⟨rfl, .inl hup⟩, ht.clean]

theorem steps_eq_nil_iff (ht : target.Rooted) (hb : base.Rooted) :
    f.steps = [] ↔ target = base := by
  obtain ⟨-, htarget⟩ := ht.names_of_components f.target_eq
  obtain ⟨-, hbase⟩ := hb.names_of_components f.base_eq
  constructor
  · intro h
    obtain ⟨hbehind, hahead⟩ := List.append_eq_nil_iff.1 h
    have hempty : f.behind = [] :=
      List.length_eq_zero_iff.1 ((List.replicate_eq_nil_iff _).1 hbehind)
    have hlists : f.shared ++ f.ahead = f.shared ++ f.behind := by rw [hahead, hempty]
    exact htarget.trans ((congrArg Anchor.root.spell hlists).trans hbase.symm)
  · intro h
    have hlists : f.shared ++ f.ahead = f.shared ++ f.behind :=
      spell_injective f.isStep_target f.isStep_base (htarget.symm.trans (h.trans hbase))
    have hlongest := f.longest _ (hlists ▸ List.prefix_rfl) (List.prefix_refl (f.shared ++ f.ahead))
    have hlength := congrArg List.length hlists
    rw [List.length_append] at hlongest hlength
    rw [List.length_append] at hlength
    have hbehind : f.behind = [] := List.eq_nil_of_length_eq_zero (by omega)
    have hahead : f.ahead = [] := List.eq_nil_of_length_eq_zero (by omega)
    rw [steps, hbehind, hahead]
    rfl

/-- The way as the components that it has: what is ahead is what the target has below the names that
are shared. -/
theorem wayOf_eq_ofComponents (h : f.steps ≠ []) :
    wayOf f.steps = ofComponents (List.replicate f.behind.length .up ++
      target.components.drop (Anchor.root.spell f.shared).components.length) := by
  have hshared : (Anchor.root.spell f.shared).components
      = .root :: f.shared.map Component.step :=
    components_spell fun n hn => f.isStep_base n (List.mem_append_left _ hn)
  have hspell := @ofComponents_spell .none _ f.isStep_steps
  have hahead : target.components.drop (.root :: f.shared.map Component.step).length
      = f.ahead.map Component.step := by
    rw [f.target_eq, List.length_cons, List.drop_succ_cons, List.map_append, List.drop_left]
  calc wayOf f.steps
      = ofComponents (Anchor.none.components ++ f.steps.map Component.step) := by
        rw [wayOf, if_neg h, ← hspell]
    _ = ofComponents (List.replicate f.behind.length .up ++ f.ahead.map Component.step) := by
        rw [steps, upDown, List.map_append, List.map_replicate, Component.step_up]
        rfl
    _ = ofComponents (List.replicate f.behind.length .up ++
          target.components.drop (Anchor.root.spell f.shared).components.length) := by
        rw [hshared, hahead]

/-- Where two clean paths part is the lowest directory that both lie below. -/
theorem isMeeting (ht : target.Rooted) (hb : base.Rooted) :
    IsMeeting (Anchor.root.spell f.shared) target base := by
  obtain ⟨-, htarget⟩ := ht.names_of_components f.target_eq
  obtain ⟨-, hbase⟩ := hb.names_of_components f.base_eq
  have hshared : ∀ n ∈ f.shared, n.IsStep := fun n hn =>
    f.isStep_base n (List.mem_append_left _ hn)
  have hleft : ∀ d, d ∈ target.ancestors ↔
      ∃ ms, ms <+: f.shared ++ f.ahead ∧ d = Anchor.root.spell ms := by
    intro d
    have hmem := mem_ancestors_spell (p := d) f.isStep_target
    rwa [← htarget] at hmem
  have hright : ∀ d, d ∈ base.ancestors ↔
      ∃ ms, ms <+: f.shared ++ f.behind ∧ d = Anchor.root.spell ms := by
    intro d
    have hmem := mem_ancestors_spell (p := d) f.isStep_base
    rwa [← hbase] at hmem
  refine ⟨(hleft _).2 ⟨_, List.prefix_append _ _, rfl⟩,
    (hright _).2 ⟨_, List.prefix_append _ _, rfl⟩, fun d hdt hdb => ?_⟩
  obtain ⟨ms, hms, rfl⟩ := (hleft d).1 hdt
  obtain ⟨ms', hms', heq⟩ := (hright _).1 hdb
  obtain rfl := spell_injective (fun n hn => f.isStep_target n (hms.subset hn))
    (fun n hn => f.isStep_base n (hms'.subset hn)) heq
  have hpre : ms <+: f.shared :=
    List.prefix_of_prefix_length_le hms (List.prefix_append _ _) (f.longest ms hms' hms)
  exact (mem_ancestors_spell hshared).2 ⟨ms, hpre, rfl⟩

/-- The names of the target are reached from those of the base by every path that leads there. -/
theorem reverse_eq_foldl (ht : target.Rooted) (hb : base.Rooted) {q : Path}
    (hns : ∀ n ∈ ns, n.IsStep) (hrel : q.isAbsolute = false) (hq : q.route = ns.map Component.step)
    (h : (base.join q).clean = target) :
    (f.shared ++ f.ahead).reverse = ns.foldl advance (f.shared ++ f.behind).reverse := by
  obtain ⟨-, htarget⟩ := ht.names_of_components f.target_eq
  obtain ⟨hbase, -⟩ := hb.names_of_components f.base_eq
  have hreached := foldl_advance_names hbase []
  rw [List.append_nil] at hreached
  have hsteps := isStep_foldl_advance hns fun n hn => f.isStep_base n (List.mem_reverse.1 hn)
  rw [clean_join_steps f.isStep_base f.base_eq hns hrel hq, hreached] at h
  rw [← spell_injective hsteps f.isStep_target (h.trans htarget), List.reverse_reverse]

/-- No way goes up less. -/
theorem length_behind_le (ht : target.Rooted) (hb : base.Rooted) {k : Nat}
    (h : LeadsUp base target k) : f.behind.length ≤ k := by
  obtain ⟨ns, hns, hleads⟩ := h
  have hsteps := isStep_upDown (k := k) fun n hn => (hns n hn).1
  have hfold :=
    f.reverse_eq_foldl ht hb hsteps (isAbsolute_wayOf hsteps) (route_wayOf hsteps) hleads
  rw [upDown, List.foldl_append, foldl_advance_ups, foldl_advance_names fun n hn => (hns n hn).2]
    at hfold
  exact (f.length_le hfold).1

/-- No path that leads to the target has fewer steps. -/
theorem length_steps_le (ht : target.Rooted) (hb : base.Rooted) {q : Path}
    (hns : ∀ n ∈ ns, n.IsStep) (hrel : q.isAbsolute = false) (hq : q.route = ns.map Component.step)
    (h : (base.join q).clean = target) : f.steps.length ≤ ns.length := by
  have hfold := f.reverse_eq_foldl ht hb hns hrel hq h
  obtain ⟨xs, j, hxs, hle⟩ := exists_foldl_advance ns (f.shared ++ f.behind).reverse
  rw [hxs] at hfold
  have hlength := (f.length_le hfold).2
  rw [steps, upDown, List.length_append, List.length_replicate]
  exact hlength.trans hle

end Fork

theorem components_clean_ne_nil (p : Path) : p.clean.components ≠ [] := by
  obtain ⟨ns, hns, hclean⟩ := p.clean_eq_spell
  rw [hclean]
  split
  · simp [components_spell hns, Anchor.components]
  · split
    · simp [components_spell, Anchor.components]
    · next hne => simpa [components_spell hns, Anchor.components] using hne

/-- **The way between clean absolute paths** undoes joining: from `base` it leads to `target`, by the
lowest directory that both lie below, with as few steps up as any way there. And no other clean
relative path that leads to `target` has fewer components. -/
theorem relativeTo?_inverts_join :
    (∀ target base : Path, target.Rooted → base.Rooted →
      ∃ way, target.relativeTo? base = some way ∧ way.isAbsolute = false ∧ way.bytes ≠ [] ∧
        (base.join way).clean = target ∧ (way = ⟨Name.here⟩ ↔ target = base) ∧
        ∃ top k, IsMeeting top target base ∧
          LeadsUp base target k ∧ (∀ j, LeadsUp base target j → k ≤ j) ∧
          (way ≠ ⟨Name.here⟩ → way = ofComponents
            (List.replicate k .up ++ target.components.drop top.components.length))) ∧
    ∀ base other : Path, base.Rooted → other.isAbsolute = false → other.clean = other →
      ∃ way, (base.join other).clean.relativeTo? base = some way ∧
        (base.join way).clean = (base.join other).clean ∧
        way.components.length ≤ other.components.length := by
  refine ⟨fun target base ht hb => ?_, fun base other hb hrel hclean => ?_⟩
  · obtain ⟨f, hway⟩ := exists_fork ht.isAbsolute hb.isAbsolute
    have hhere := wayOf_eq_here_iff f.isStep_steps
    refine ⟨wayOf f.steps, hway, isAbsolute_wayOf f.isStep_steps, ?_, f.clean_join_of_rooted ht hb,
      hhere.trans (f.steps_eq_nil_iff ht hb), Anchor.root.spell f.shared, f.behind.length,
      f.isMeeting ht hb, ?_, fun j hj => f.length_behind_le ht hb hj, fun hne => ?_⟩
    · intro hnil
      have hlength := length_components_wayOf f.isStep_steps
      rw [show wayOf f.steps = empty from congrArg Path.mk hnil] at hlength
      have hpos := le_max_left 1 f.steps.length
      rw [← hlength] at hpos
      exact absurd hpos (by decide)
    · obtain ⟨hnames, -⟩ := ht.names_of_components f.target_eq
      exact ⟨f.ahead, fun n hn => ⟨f.isStep_ahead n hn, hnames n (List.mem_append_right _ hn)⟩,
        f.clean_join_of_rooted ht hb⟩
    · exact f.wayOf_eq_ofComponents fun hnil => hne (hhere.2 hnil)
  · have habs : (base.join other).isAbsolute = true := by
      rw [isAbsolute_join, hb.isAbsolute, Bool.true_or]
    have ht := clean_rooted habs
    obtain ⟨f, hway⟩ := exists_fork ht.isAbsolute hb.isAbsolute
    -- the other path is a way to the same place, and the fork has the shortest one
    obtain ⟨ns, hns, hroute, hlength⟩ := exists_steps_of_relative hrel
    have hsteps := f.length_steps_le ht hb hns hrel hroute rfl
    have hpos : 1 ≤ other.components.length := by
      have hne := other.components_clean_ne_nil
      rw [hclean] at hne
      exact List.length_pos_of_ne_nil hne
    refine ⟨wayOf f.steps, hway, f.clean_join_of_rooted ht hb, ?_⟩
    rw [length_components_wayOf f.isStep_steps]
    exact max_le hpos (hsteps.trans hlength)

/-- From the pages to what the application shares by its own directory, and a way up to the root and
down again that is longer than need be. -/
theorem relativeTo?_inverts_join_shared :
    ((ofString "/app/shared/b.scss").Rooted ∧ (ofString "/app/src/pages").Rooted) ∧
      (∃ way top k, (ofString "/app/shared/b.scss").relativeTo? (ofString "/app/src/pages") = some way ∧
        way = ofString "../../shared/b.scss" ∧
        ((ofString "/app/src/pages").join way).clean = ofString "/app/shared/b.scss" ∧
        IsMeeting top (ofString "/app/shared/b.scss") (ofString "/app/src/pages") ∧
        ∀ j, LeadsUp (ofString "/app/src/pages") (ofString "/app/shared/b.scss") j → k ≤ j) ∧
      ((ofString "../../../app/src").isAbsolute = false ∧
        (ofString "../../../app/src").clean = ofString "../../../app/src") ∧
      ∃ way, (ofString "/app/src").relativeTo? (ofString "/app/src/pages") = some way ∧
        ((ofString "/app/src/pages").join way).clean = ofString "/app/src" ∧
        way.components.length ≤ 5 := by
  have ht : (ofString "/app/shared/b.scss").Rooted := rooted_iff.2 ⟨by decide, by decide +kernel⟩
  have hb : (ofString "/app/src/pages").Rooted := rooted_iff.2 ⟨by decide, by decide +kernel⟩
  have hclean : (ofString "../../../app/src").clean = ofString "../../../app/src" := by
    decide +kernel
  have hreached : ((ofString "/app/src/pages").join (ofString "../../../app/src")).clean
      = ofString "/app/src" := by
    decide +kernel
  obtain ⟨way, hway, -, -, hleads, -, top, k, htop, -, hleast, -⟩ :=
    relativeTo?_inverts_join.1 _ _ ht hb
  obtain ⟨back, hback, hthere, hlength⟩ :=
    relativeTo?_inverts_join.2 _ (ofString "../../../app/src") hb rfl hclean
  rw [hreached] at hback hthere
  have hspelled : (ofString "/app/shared/b.scss").relativeTo? (ofString "/app/src/pages")
      = some (ofString "../../shared/b.scss") := by
    decide +kernel
  exact ⟨⟨ht, hb⟩, ⟨way, top, k, hway, Option.some.inj (hway.symm.trans hspelled), hleads, htop,
    hleast⟩, ⟨rfl, hclean⟩, back, hback, hthere, hlength⟩

end Stylesheet.Path
