import Stylesheet.Proofs.Path.Joining
import Stylesheet.Proofs.Path.Naming

set_option autoImplicit false

/-! # Clean absolute paths

An absolute path is cleaned step by step (`advance`, `clean_of_route`). At the root `..` stays at the
root, so cleaning leaves none of it (`clean_rooted`), and a clean absolute path is the root and names
below it (`rooted_iff`). Such paths are read from every directory as they are, and what is read from
them stands behind one separator (`Rooted.bytes_join`).
-/

namespace Stylesheet.Path

/-- The root with names after it, none of which leads back up. These are the clean absolute paths
(`rooted_iff`). -/
def Rooted (p : Path) : Prop :=
  ∃ ns : List Name, (∀ n ∈ ns, n.IsStep ∧ n ≠ Name.up) ∧ p = Anchor.root.spell ns

variable {p q : Path} {ns ms : List Name}

theorem isAbsolute_spell (ns : List Name) : (Anchor.root.spell ns).isAbsolute = true := rfl

theorem Rooted.isAbsolute (h : p.Rooted) : p.isAbsolute = true := by
  obtain ⟨ns, -, rfl⟩ := h
  exact isAbsolute_spell ns

theorem isAbsolute_join (p q : Path) : (p.join q).isAbsolute = (p.isAbsolute || q.isAbsolute) := by
  obtain ⟨bs⟩ := p
  unfold join
  cases hq : q.isAbsolute with
  | true => simp [hq]
  | false =>
      rw [if_neg Bool.false_ne_true, Bool.or_false]
      cases bs with
      | nil => simpa [isAbsolute] using hq
      | cons b bs => split <;> rfl

/-! ## Cleaning an absolute path -/

/-- The names below the root that were reached so far, the last one first, after one more step. -/
def advance (ms : List Name) (n : Name) : List Name := if n = Name.up then ms.tail else n :: ms

theorem mem_of_mem_advance {n m : Name} (h : m ∈ advance ms n) : m ∈ ms ∨ m = n ∧ n ≠ Name.up := by
  unfold advance at h
  split at h
  · exact .inl (List.mem_of_mem_tail h)
  · next hn => exact (List.mem_cons.1 h).symm.imp id fun he => ⟨he, hn⟩

theorem mem_of_mem_foldl_advance {m : Name} (h : m ∈ ns.foldl advance ms) :
    m ∈ ms ∨ m ∈ ns ∧ m ≠ Name.up := by
  induction ns generalizing ms with
  | nil => exact .inl h
  | cons n ns ih =>
      rcases ih h with hm | ⟨hm, hup⟩
      · rcases mem_of_mem_advance hm with hm | ⟨rfl, hup⟩
        · exact .inl hm
        · exact .inr ⟨List.mem_cons_self, hup⟩
      · exact .inr ⟨List.mem_cons_of_mem n hm, hup⟩

theorem isStep_foldl_advance (hns : ∀ n ∈ ns, n.IsStep) (hms : ∀ m ∈ ms, m.IsStep) :
    ∀ n ∈ (ns.foldl advance ms).reverse, n.IsStep := by
  intro n hn
  rcases mem_of_mem_foldl_advance (List.mem_reverse.1 hn) with hmem | ⟨hmem, -⟩
  · exact hms n hmem
  · exact hns n hmem

/-- Steps below the root are settled one after the other. -/
theorem foldl_settle_steps (hms : ∀ m ∈ ms, m ≠ Name.up) (ns : List Name) :
    (ns.map Component.step).foldl settle (ms.map Component.step ++ [.root])
      = (ns.foldl advance ms).map Component.step ++ [.root] := by
  induction ns generalizing ms with
  | nil => rfl
  | cons n ns ih =>
      have hstep : settle (ms.map Component.step ++ [.root]) (Component.step n)
          = (advance ms n).map Component.step ++ [.root] := by
        by_cases hn : n = Name.up
        · subst hn
          cases ms with
          | nil => rfl
          | cons m ms => simp [settle, advance, Component.step_of_ne (hms m (by simp))]
        · simp [settle, advance, hn, Component.step_of_ne hn]
      have hnext : ∀ m ∈ advance ms n, m ≠ Name.up := by
        intro m hm
        rcases mem_of_mem_advance hm with hm | ⟨rfl, hn⟩
        · exact hms m hm
        · exact hn
      calc ((n :: ns).map Component.step).foldl settle (ms.map Component.step ++ [.root])
          = (ns.map Component.step).foldl settle ((advance ms n).map Component.step ++ [.root]) := by
            rw [List.map_cons, List.foldl_cons, hstep]
        _ = ((n :: ns).foldl advance ms).map Component.step ++ [.root] := by
            rw [ih hnext, List.foldl_cons]

theorem foldl_advance_names (hns : ∀ n ∈ ns, n ≠ Name.up) (ms : List Name) :
    ns.foldl advance ms = ns.reverse ++ ms := by
  induction ns generalizing ms with
  | nil => rfl
  | cons n ns ih =>
      calc (n :: ns).foldl advance ms
          = ns.foldl advance (n :: ms) := by rw [List.foldl_cons, advance, if_neg (hns n (by simp))]
        _ = ns.reverse ++ n :: ms := ih (fun m hm => hns m (List.mem_cons_of_mem n hm)) _
        _ = (n :: ns).reverse ++ ms := by
            rw [List.reverse_cons, List.append_assoc, List.singleton_append]

theorem route_of_components (h : p.components = .root :: ns.map Component.step) :
    p.route = .root :: ns.map Component.step := by
  rw [route, h, List.filter_cons_of_pos (by decide), filter_steps]

/-- What an absolute path is cleaned to. -/
theorem clean_of_route (hns : ∀ n ∈ ns, n.IsStep)
    (h : p.route = .root :: ns.map Component.step) :
    p.clean = Anchor.root.spell (ns.foldl advance []).reverse := by
  have hsteps := @isStep_foldl_advance ns [] hns (by simp)
  have hsettle := @foldl_settle_steps [] (by simp) ns
  have hclean : cleanComponents p.components
      = .root :: (ns.foldl advance []).reverse.map Component.step := by
    rw [← cleanComponents_route, h, cleanComponents, List.foldl_cons]
    show (List.foldl settle ([].map Component.step ++ [.root]) _).reverse = _
    rw [hsettle]
    simp
  rw [clean, hclean]
  exact @ofComponents_spell .root _ hsteps

/-- Without a step up it is cleaned to its own names. -/
theorem clean_of_names (hns : ∀ n ∈ ns, n.IsStep) (hnames : ∀ n ∈ ns, n ≠ Name.up)
    (h : p.components = .root :: ns.map Component.step) : p.clean = Anchor.root.spell ns := by
  rw [clean_of_route hns (route_of_components h), foldl_advance_names hnames, List.append_nil,
    List.reverse_reverse]

/-- An absolute path is the root and steps. -/
theorem exists_steps_of_isAbsolute (h : p.isAbsolute = true) :
    ∃ ns : List Name, (∀ n ∈ ns, n.IsStep) ∧ p.components = .root :: ns.map Component.step := by
  obtain ⟨ns, hns, hc⟩ := p.components_eq_steps
  have hanchor : p.anchor = .root := by simpa [isAbsolute_eq] using h
  exact ⟨ns, hns, by rw [hc, hanchor]; rfl⟩

/-- An absolute path is cleaned to the root and names below it. -/
theorem clean_rooted (h : p.isAbsolute = true) : p.clean.Rooted := by
  obtain ⟨ns, hns, hcomponents⟩ := exists_steps_of_isAbsolute h
  refine ⟨(ns.foldl advance []).reverse, fun n hn => ?_,
    clean_of_route hns (route_of_components hcomponents)⟩
  rcases mem_of_mem_foldl_advance (List.mem_reverse.1 hn) with hnil | ⟨hmem, hup⟩
  · cases hnil
  · exact ⟨hns n hmem, hup⟩

theorem isAbsolute_clean (p : Path) : p.clean.isAbsolute = p.isAbsolute := by
  cases habs : p.isAbsolute with
  | true => exact (clean_rooted habs).isAbsolute
  | false =>
      obtain ⟨ns, hns, hclean⟩ := p.clean_eq_spell
      rw [hclean, habs, if_neg Bool.false_ne_true, isAbsolute_eq]
      split
      · rfl
      · rw [anchor_spell hns]
        rfl

theorem Rooted.clean (h : p.Rooted) : p.clean = p := by
  obtain ⟨ns, hns, rfl⟩ := h
  have hsteps : ∀ n ∈ ns, n.IsStep := fun n hn => (hns n hn).1
  exact clean_of_names hsteps (fun n hn => (hns n hn).2) (components_spell hsteps)

/-- **A clean absolute path is the root and names below it.** -/
theorem rooted_iff : p.Rooted ↔ p.isAbsolute = true ∧ p.clean = p := by
  constructor
  · intro h
    exact ⟨h.isAbsolute, h.clean⟩
  · rintro ⟨habs, hclean⟩
    rw [← hclean]
    exact clean_rooted habs

/-- One more name below a clean absolute path. -/
theorem rooted_spell_concat (hns : ∀ m ∈ ns, m.IsStep ∧ m ≠ Name.up) {n : Name} (hn : n.IsStep)
    (hup : n ≠ Name.up) : (Anchor.root.spell (ns ++ [n])).Rooted := by
  refine ⟨ns ++ [n], fun m hm => ?_, rfl⟩
  rcases List.mem_append.1 hm with hm | hm
  · exact hns m hm
  · rw [List.mem_singleton.1 hm]
    exact ⟨hn, hup⟩

/-- The directory that a clean absolute path lies in is one too. -/
theorem Rooted.parent? (h : p.Rooted) (hq : p.parent? = some q) : q.Rooted := by
  obtain ⟨ns, hns, rfl⟩ := h
  rcases ns.eq_nil_or_concat' with rfl | ⟨before, n, rfl⟩
  · cases hq
  · have hbefore : ∀ m ∈ before, m.IsStep ∧ m ≠ Name.up := fun m hm => hns m (by simp [hm])
    rw [parent?_spell (fun m hm => (hbefore m hm).1) (hns n (by simp)).1] at hq
    exact ⟨before, hbefore, (Option.some.inj hq).symm⟩

/-- A relative path below a clean absolute directory: one separator stands between them. -/
theorem Rooted.bytes_join (h : p.Rooted) (hq : q.isAbsolute = false) :
    (p.join q).bytes = (if p = .ofString "/" then [] else p.bytes) ++ separator :: q.bytes := by
  obtain ⟨ns, hns, rfl⟩ := h
  have hsteps : ∀ n ∈ ns, n.IsStep := fun n hn => (hns n hn).1
  have hroot : Path.ofString "/" = ⟨[separator]⟩ := by decide +kernel
  by_cases hnil : ns = []
  · subst hnil
    have hspell : Anchor.root.spell [] = .ofString "/" := hroot.symm
    rw [if_pos hspell, join, hq, if_neg Bool.false_ne_true, if_pos (.inr rfl)]
    rfl
  · have hne := join_ne_nil_of_steps hsteps hnil
    have hspell : Anchor.root.spell ns ≠ .ofString "/" := by
      rw [hroot]
      simpa [Anchor.spell] using hne
    have hlast : (Anchor.root.spell ns).bytes.getLast? ≠ some separator := by
      have hnames : (Text.join separator ns).getLast? ≠ some separator :=
        getLast?_join_ne_separator fun n hn => ⟨(hsteps n hn).ne_nil, (hsteps n hn).no_separator⟩
      rwa [Anchor.spell, List.getLast?_cons_of_ne_nil hne]
    have hbytes : (Anchor.root.spell ns).bytes ≠ [] := by simp [Anchor.spell]
    rw [if_neg hspell, join, hq, if_neg Bool.false_ne_true, if_neg (not_or.2 ⟨hbytes, hlast⟩)]

end Stylesheet.Path
