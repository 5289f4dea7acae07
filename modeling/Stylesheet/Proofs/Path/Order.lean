import Stylesheet.Proofs.Path.Spelling

set_option autoImplicit false

/-! # The order of paths

Components are ordered by their kind and names by their bytes. The order is lawful, so that of
paths is, too; but it goes by components, and two paths that it takes for equal are equal only
if they are spelled alike, as tidy paths are (`Path.Tidy.eq_of_compare`).
-/

namespace Stylesheet

namespace Component

theorem compare_name (n m : Name) : compare (name n) (name m) = compare n m := by
  show (compare n m).then .eq = compare n m
  cases compare n m <;> rfl

instance : Std.OrientedOrd Component where
  eq_swap {a b} := by
    cases a with
    | name n =>
        cases b with
        | name m =>
            rw [compare_name, compare_name]
            exact Std.OrientedCmp.eq_swap
        | _ => rfl
    | _ => cases b <;> rfl

instance : Std.TransOrd Component where
  isLE_trans {a b c} hab hbc := by
    cases a with
    | name n =>
        cases b with
        | name m =>
            cases c with
            | name k =>
                rw [compare_name] at hab hbc ⊢
                exact Std.TransCmp.isLE_trans hab hbc
            | _ => cases hbc
        | _ => cases hab
    | _ =>
        cases b with
        | name m => cases c <;> first | rfl | cases hbc
        | _ => cases c <;> first | rfl | (cases hab; done) | cases hbc

instance : Std.LawfulEqOrd Component where
  eq_of_compare {a b} h := by
    cases a with
    | name n =>
        cases b with
        | name m =>
            rw [compare_name] at h
            rw [Std.LawfulEqOrd.eq_of_compare h]
        | _ => cases h
    | _ => cases b <;> first | rfl | cases h

end Component

namespace Path

instance : Std.OrientedOrd Path where
  eq_swap {p q} := (Std.OrientedCmp.eq_swap : compare p.components q.components = _)

instance : Std.TransOrd Path where
  isLE_trans {p _ r} hpq hqr :=
    (Std.TransCmp.isLE_trans hpq hqr : (compare p.components r.components).isLE)

/-- Tidy paths that neither comes before the other are equal. -/
theorem Tidy.eq_of_compare {p q : Path} (hp : p.Tidy) (hq : q.Tidy) (h : compare p q = .eq) :
    p = q := by
  have hcomponents : compare p.components q.components = .eq := h
  exact hp.eq_of_same hq (same_iff.2 (Std.LawfulEqOrd.eq_of_compare hcomponents))

end Path

end Stylesheet
