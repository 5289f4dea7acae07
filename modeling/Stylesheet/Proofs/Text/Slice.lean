import Mathlib.Data.List.Basic
import Mathlib.Tactic.Common
import Stylesheet.Text.Slice

set_option autoImplicit false

/-! # Laws of slices

A text is split at a byte offset in exactly one way, if at all: the offset is the length of what
stands before it (`splitAtByte?_eq_some_iff`).
-/

namespace Stylesheet.Text

@[simp] theorem byteLength_nil : byteLength [] = 0 := rfl

@[simp] theorem byteLength_cons (c : Char) (cs : List Char) :
    byteLength (c :: cs) = c.utf8Size + byteLength cs := rfl

@[simp] theorem byteLength_append (as bs : List Char) :
    byteLength (as ++ bs) = byteLength as + byteLength bs := by
  induction as with
  | nil => simp
  | cons a as ih => simp [ih, Nat.add_assoc]

theorem byteLength_eq_zero_iff {cs : List Char} : byteLength cs = 0 ↔ cs = [] := by
  cases cs with
  | nil => simp
  | cons c cs =>
      have hc := c.utf8Size_pos
      simp
      omega

theorem splitAtByte?_append (as bs : List Char) :
    splitAtByte? (byteLength as) (as ++ bs) = some (as, bs) := by
  induction as with
  | nil => cases bs <;> rfl
  | cons a as ih =>
      obtain ⟨n, hn⟩ : ∃ n, a.utf8Size + byteLength as = n + 1 :=
        Nat.exists_eq_add_one.2 (Nat.add_pos_left a.utf8Size_pos _)
      have hrest : n + 1 - a.utf8Size = byteLength as := by omega
      rw [byteLength_cons, hn, List.cons_append, splitAtByte?, if_pos (by omega), hrest, ih]
      rfl

/-- A text is split where what stands before is as long as said. -/
theorem splitAtByte?_eq_some_iff {n : Nat} {cs as bs : List Char} :
    splitAtByte? n cs = some (as, bs) ↔ cs = as ++ bs ∧ byteLength as = n := by
  constructor
  · intro h
    induction cs generalizing n as with
    | nil =>
        cases n with
        | zero =>
            obtain ⟨rfl, rfl⟩ := Prod.mk.inj (Option.some.inj h)
            exact ⟨rfl, rfl⟩
        | succ n => cases h
    | cons c cs ih =>
        cases n with
        | zero =>
            obtain ⟨rfl, rfl⟩ := Prod.mk.inj (Option.some.inj h)
            exact ⟨rfl, rfl⟩
        | succ n =>
            rw [splitAtByte?] at h
            split at h
            · next hle =>
                obtain ⟨⟨before, rest⟩, hcut, heq⟩ := Option.map_eq_some_iff.1 h
                obtain ⟨rfl, rfl⟩ := Prod.mk.inj heq
                obtain ⟨rfl, hlength⟩ := ih hcut
                exact ⟨rfl, by rw [byteLength_cons, hlength]; omega⟩
            · cases h
  · rintro ⟨rfl, rfl⟩
    exact splitAtByte?_append as bs

/-- Beyond a text there is nothing to split. -/
theorem splitAtByte?_eq_none {n : Nat} {cs : List Char} (h : byteLength cs < n) :
    splitAtByte? n cs = none := by
  rw [Option.eq_none_iff_forall_ne_some]
  rintro ⟨as, bs⟩ hcut
  obtain ⟨rfl, rfl⟩ := splitAtByte?_eq_some_iff.1 hcut
  rw [byteLength_append] at h
  omega

theorem sliceTo_append (as bs : List Char) : sliceTo (as ++ bs) (byteLength as) = .ok as := by
  rw [sliceTo, splitAtByte?_append]

theorem sliceFrom_append (as bs : List Char) : sliceFrom (as ++ bs) (byteLength as) = .ok bs := by
  rw [sliceFrom, splitAtByte?_append]

theorem slice_append (as bs cs : List Char) :
    slice (as ++ bs ++ cs) (byteLength as) (byteLength (as ++ bs)) = .ok bs := by
  rw [slice, sliceTo_append]
  exact sliceFrom_append as bs

theorem byteIndexOf?_of_not_mem {c : Char} {cs : List Char} (h : c ∉ cs) :
    byteIndexOf? c cs = none := by
  induction cs with
  | nil => rfl
  | cons d ds ih =>
      obtain ⟨hd, hds⟩ := not_or.1 (List.mem_cons.not.1 h)
      rw [byteIndexOf?, if_neg (Ne.symm hd), ih hds]
      rfl

theorem byteIndexOf?_append {c : Char} {as : List Char} (h : c ∉ as) (bs : List Char) :
    byteIndexOf? c (as ++ c :: bs) = some (byteLength as) := by
  induction as with
  | nil => simp [byteIndexOf?]
  | cons a as ih =>
      obtain ⟨ha, has⟩ := not_or.1 (List.mem_cons.not.1 h)
      rw [List.cons_append, byteIndexOf?, if_neg (Ne.symm ha), ih has]
      rfl

end Stylesheet.Text
