import Stylesheet.Project.Entries
import Stylesheet.Proofs.Path.Ancestors
import Stylesheet.Proofs.Path.Order

set_option autoImplicit false

/-! # Paths below the root of a project

What a walk visits is named from where it starts. The path of the names has the components of the
root and then a step for each name (`components_pathBelow`), however the root is spelled, and what
is shown of it below the root is the names alone (`displayFrom_pathBelow`). The order of such paths
is that of the names (`pathLe_pathBelow`).
-/

namespace Stylesheet

namespace Path

/-- Noise that follows the last of so many steps is left in front of what comes behind it. -/
theorem exists_dropSteps_append {ms : List Name} {k : Nat}
    (hk : (ms.filterMap Component.ofPiece?).length = k) (ns : List Name) :
    ∃ noise : List Name, (∀ n ∈ noise, n.isNoise = true) ∧
      dropSteps k (ms ++ ns) = noise ++ ns := by
  induction ms generalizing k with
  | nil =>
      obtain rfl : 0 = k := hk
      exact ⟨[], by simp, by rw [dropSteps]⟩
  | cons m ms ih =>
      cases hm : Component.ofPiece? m with
      | none =>
          have hnoise := Component.ofPiece?_eq_none_iff.1 hm
          rw [List.filterMap_cons_none hm] at hk
          obtain ⟨noise, hall, hdrop⟩ := ih hk
          cases k with
          | zero =>
              rw [dropSteps] at hdrop
              exact ⟨m :: noise, List.forall_mem_cons.2 ⟨hnoise, hall⟩, by
                rw [dropSteps, List.cons_append, hdrop, List.cons_append]⟩
          | succ k => exact ⟨noise, hall, by rw [List.cons_append, dropSteps, if_pos hnoise, hdrop]⟩
      | some c =>
          have hnoise : ¬ m.isNoise = true := fun e => by
            rw [Component.ofPiece?_eq_none_iff.2 e] at hm
            cases hm
          rw [List.filterMap_cons_some hm, List.length_cons] at hk
          cases k with
          | zero => cases hk
          | succ k =>
              obtain ⟨noise, hall, hdrop⟩ := ih (Nat.succ.inj hk)
              exact ⟨noise, hall, by rw [List.cons_append, dropSteps, if_neg hnoise, hdrop]⟩

/-- A path without components has no text. -/
theorem eq_empty_of_components {p : Path} (h : p.components = []) : p = empty := by
  obtain ⟨hanchor, hpieces⟩ := List.append_eq_nil_iff.1 h
  have hleads := p.leads_pieces
  have hnone : p.anchor = .none := by
    cases ha : p.anchor with
    | none => rfl
    | _ =>
        rw [ha] at hanchor
        cases hanchor
  have hnil : p.pieces = [] := by
    cases hp : p.pieces with
    | nil => rfl
    | cons n ns =>
        -- where nothing is written for the start, the first piece is a step
        have hfirst := hleads.head_none hnone n (by simp [hp])
        have hnoise := List.filterMap_eq_nil_iff.1 hpieces n (by simp [hp])
        rw [Component.ofPiece?_eq_none_iff] at hnoise
        simp [Name.isNoise, hfirst] at hnoise
  rw [← p.path_layout, hnone, hnil]
  rfl

end Path

namespace Project

variable {root : Path} {names : List Name}

theorem pathBelow_concat (root : Path) (names : List Name) (n : Name) :
    pathBelow root (names ++ [n]) = (pathBelow root names).join ⟨n⟩ := by
  rw [pathBelow, List.foldl_append]
  rfl

/-- Below the root each name is one component more. -/
theorem components_pathBelow (root : Path) (h : ∀ n ∈ names, n.IsStep) :
    (pathBelow root names).components = root.components ++ names.map Component.step := by
  induction names using List.reverseRecOn with
  | nil => exact (List.append_nil _).symm
  | append_singleton names n ih =>
      have hnames := ih fun m hm => h m (by simp [hm])
      rw [pathBelow_concat, Path.components_join _ (h n (by simp)), hnames, List.map_append,
        List.append_assoc]
      rfl

/-- Different names lead to different components. -/
theorem eq_of_components_pathBelow {names' : List Name} (h : ∀ n ∈ names, n.IsStep)
    (h' : ∀ n ∈ names', n.IsStep)
    (heq : (pathBelow root names).components = (pathBelow root names').components) :
    names = names' := by
  rw [components_pathBelow root h, components_pathBelow root h'] at heq
  exact List.map_injective_iff.2 Component.step_injective (List.append_cancel_left heq)

/-- The names stand behind the pieces of the root, but for noise at the end of these. -/
theorem exists_layout_pathBelow (root : Path) (h : ∀ n ∈ names, n.IsStep) :
    ∃ ms, ms.filterMap Component.ofPiece? = root.pieces.filterMap Component.ofPiece? ∧
      (pathBelow root names).layout = (root.anchor, ms ++ names) := by
  induction names using List.reverseRecOn with
  | nil => exact ⟨root.pieces, rfl, by rw [List.append_nil]; rfl⟩
  | append_singleton names n ih =>
      have hbefore : ∀ m ∈ names, m.IsStep := fun m hm => h m (by simp [hm])
      have hn := h n (by simp)
      obtain ⟨ms, hms, hlayout⟩ := ih hbefore
      obtain ⟨ms', hpre, hms', hjoin⟩ := (pathBelow root names).exists_layout_join
      have hpieces : (pathBelow root names).pieces = ms ++ names := congrArg Prod.snd hlayout
      have hanchor : (pathBelow root names).anchor = root.anchor := by rw [Path.anchor, hlayout]
      rw [hpieces] at hpre hms'
      rw [pathBelow_concat, hjoin n hn.no_separator fun _ => hn, hanchor]
      rcases names.eq_nil_or_concat' with rfl | ⟨before, m, rfl⟩
      · rw [List.append_nil] at hms'
        exact ⟨ms', hms'.trans hms, rfl⟩
      · -- the last of the names is no noise, so it is not left out
        obtain ⟨left, hleft⟩ := hpre
        have hnone : left.filterMap Component.ofPiece? = [] := by
          rw [← hleft, List.filterMap_append] at hms'
          exact List.self_eq_append_right.1 hms'
        have hnil : left = [] := by
          rcases left.eq_nil_or_concat' with rfl | ⟨rest, k, rfl⟩
          · rfl
          · rw [← List.append_assoc, ← List.append_assoc] at hleft
            obtain ⟨-, hk⟩ := List.append_inj' hleft rfl
            obtain rfl := List.singleton_inj.1 hk
            have hstep := List.filterMap_eq_nil_iff.1 hnone k (by simp)
            rw [(hbefore k (by simp)).ofPiece?] at hstep
            cases hstep
        rw [hnil, List.append_nil] at hleft
        exact ⟨ms, hms, by rw [hleft, List.append_assoc]⟩

/-- **What is shown below the root** of a path are its names. -/
theorem within?_pathBelow (root : Path) (h : ∀ n ∈ names, n.IsStep) :
    (pathBelow root names).within? root = some ⟨Text.join Path.separator names⟩ := by
  obtain ⟨ms, hms, hlayout⟩ := exists_layout_pathBelow root h
  have hpieces : (pathBelow root names).pieces = ms ++ names := by rw [Path.pieces, hlayout]
  have hanchor : (pathBelow root names).anchor = root.anchor := by rw [Path.anchor, hlayout]
  have hnoise : ∀ n ∈ names, n.isNoise = false := fun n hn => (h n hn).isNoise
  have hpre : root.components.isPrefixOf (pathBelow root names).components = true := by
    rw [components_pathBelow root h]
    exact List.isPrefixOf_iff_prefix.2 (List.prefix_append _ _)
  have hlength : root.components.length - root.anchor.components.length
      = (ms.filterMap Component.ofPiece?).length := by
    rw [hms, Path.components, List.length_append, Nat.add_sub_cancel_left]
  rw [Path.within?, if_pos hpre]
  by_cases hnil : root.components = []
  · -- the root is the empty path, and the names are all there is
    obtain rfl := Path.eq_empty_of_components hnil
    obtain rfl : ms = [] := by
      have hleads := (pathBelow Path.empty names).leads_pieces
      rw [hanchor, hpieces] at hleads
      cases ms with
      | nil => rfl
      | cons m ms =>
          have hfirst := hleads.head_none rfl m rfl
          have hpiece := List.filterMap_eq_nil_iff.1 hms m (by simp)
          rw [Component.ofPiece?_eq_none_iff] at hpiece
          simp [Name.isNoise, hfirst] at hpiece
    have hend : Text.dropEndWhile Name.isNoise names = names := by
      have htrim := Text.trimWhile_of_forall hnoise
      cases names with
      | nil => rfl
      | cons n ns => rwa [Text.trimWhile, List.dropWhile_cons_of_neg (by simp [hnoise n])] at htrim
    rw [hanchor, hpieces, List.nil_append, hend]
    rfl
  · have hk : ¬ root.components.length = 0 := by rwa [List.length_eq_zero_iff]
    obtain ⟨noise, hall, hdrop⟩ := @Path.exists_dropSteps_append ms _ rfl names
    simp only [hk, if_false, hanchor, hpieces, hlength, hdrop]
    rw [Text.trimWhile_append hall, Text.trimWhile_of_forall hnoise]

theorem displayFrom_pathBelow (root : Path) (h : ∀ n ∈ names, n.IsStep) :
    root.displayFrom (pathBelow root names)
      = Path.display ⟨Text.join Path.separator names⟩ := by
  rw [Path.displayFrom, within?_pathBelow root h, Option.getD_some]

/-! ## The order below the root -/

theorem compare_append_left {α : Type} [Ord α] [Std.ReflOrd α] (cs as bs : List α) :
    compare (cs ++ as) (cs ++ bs) = compare as bs := by
  induction cs with
  | nil => rfl
  | cons c cs ih =>
      have hself : compare c c = .eq := Std.ReflCmp.compare_self
      rw [List.cons_append, List.cons_append, List.compare_cons_cons, hself, Ordering.then, ih]

/-- The order of paths below the root goes by their names. -/
theorem pathLe_pathBelow {names' : List Name} (root : Path) (h : ∀ n ∈ names, n.IsStep)
    (h' : ∀ n ∈ names', n.IsStep) :
    pathLe (pathBelow root names) (pathBelow root names')
      = (compare (names.map Component.step) (names'.map Component.step)).isLE := by
  show (compare (pathBelow root names).components (pathBelow root names').components).isLE = _
  rw [components_pathBelow root h, components_pathBelow root h', compare_append_left]

end Project

end Stylesheet
