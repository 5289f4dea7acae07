import Stylesheet.Proofs.Path.Relative
import Stylesheet.Text.Percent

set_option autoImplicit false

/-! # Paths read off what is shown of them

A path is shown as text, and bytes that are not UTF-8 are replaced. Only ASCII is shown as ASCII
(`isAscii_of_first`), so what is read off the text again has the separators and the dots of the path
and a name for each of its names (`ofString_display_spell`), each still a step of the same kind
(`IsStep.reread`, `reread_eq_up_iff`). Nothing is lost exactly if every name is UTF-8
(`isValid_spell_iff`).
-/

namespace Stylesheet

namespace Utf8

/-- Bytes shown as text and read again. -/
def reread (bs : List UInt8) : List UInt8 := encode (decodeLossy bs)

variable {as bs : List UInt8}

theorem isValid_iff : isValid bs = true ↔ reread bs = bs := beq_iff_eq

theorem reread_nil : reread [] = [] := by
  rw [reread, decodeLossy, encode_nil]

/-! ## ASCII -/

theorem first_of_isAscii {a : UInt8} (h : a.toNat < 0x80) (rest : List UInt8) :
    first a rest = (Char.ofNat a.toNat, 0) := by
  simp [first, h]

theorem toNat_ofNat {n : Nat} (h : n.isValidChar) : (Char.ofNat n).toNat = n := by
  rw [Char.ofNat, dif_pos h]
  rfl

theorem le_toNat_ofNat {n : Nat} (h : 0x80 ≤ n ∧ n.isValidChar) : 0x80 ≤ (Char.ofNat n).toNat := by
  rw [toNat_ofNat h.2]
  exact h.1

theorem le_toNat_replacement : 0x80 ≤ replacement.toNat := by decide

/-- Only an ASCII byte is shown as an ASCII character: the bounds on the bytes of a longer character
keep its number above those of ASCII, and valid. -/
theorem isAscii_of_first {a : UInt8} {rest : List UInt8} (h : (first a rest).1.toNat < 0x80) :
    a.toNat < 0x80 := by
  by_contra hge
  refine absurd h (Nat.not_lt.2 ?_)
  simp only [first, if_neg hge, char2, char3, char4]
  repeat' split
  all_goals first
    | with_reducible exact le_toNat_replacement
    | with_reducible refine le_toNat_ofNat ?_
      simp only [second3, second4, isContinuation, Nat.isValidChar, Bool.and_eq_true,
        Bool.or_eq_true, decide_eq_true_eq, bne_iff_ne, ne_eq] at *
      omega

/-- An ASCII character of the text stands for a byte. -/
theorem mem_of_mem_decodeLossy {c : Char} (hc : c.toNat < 0x80) (h : c ∈ decodeLossy bs) :
    UInt8.ofNat c.toNat ∈ bs := by
  induction bs using decodeLossy.induct with
  | case1 => simp [decodeLossy] at h
  | case2 a rest ih =>
    rw [decodeLossy] at h
    rcases List.mem_cons.1 h with rfl | h
    · have ha := isAscii_of_first hc
      rw [first_of_isAscii ha, toNat_ofNat (.inl (by omega)), UInt8.ofNat_toNat]
      exact List.mem_cons_self
    · exact List.mem_cons_of_mem a (List.mem_of_mem_drop (ih h))

theorem reread_append_ascii {b : UInt8} (hb : b.toNat < 0x80) (as bs : List UInt8) :
    reread (as ++ b :: bs) = reread as ++ b :: reread bs := by
  have hbyte := Percent.utf8EncodeChar_ofNat b.toNat hb
  rw [UInt8.ofNat_toNat] at hbyte
  have hcons : decodeLossy (b :: bs) = Char.ofNat b.toNat :: decodeLossy bs := by
    rw [decodeLossy, first_of_isAscii hb, List.drop_zero]
  calc reread (as ++ b :: bs)
      = encode (decodeLossy as ++ Char.ofNat b.toNat :: decodeLossy bs) := by
        rw [reread, decodeLossy_append_ascii hb, hcons]
    _ = reread as ++ b :: reread bs := by
        rw [encode_append, encode_cons, hbyte]
        rfl

/-- Bytes that are shown in ASCII alone are read again as they were. -/
theorem reread_of_isAscii (h : ∀ c ∈ decodeLossy bs, c.toNat < 0x80) : reread bs = bs := by
  induction bs using decodeLossy.induct with
  | case1 => exact reread_nil
  | case2 a rest ih =>
    rw [decodeLossy] at h
    have ha := isAscii_of_first (h _ List.mem_cons_self)
    rw [first_of_isAscii ha, List.drop_zero] at ih h
    have hrest := ih fun c hc => h c (List.mem_cons_of_mem _ hc)
    have hcons := reread_append_ascii ha [] rest
    rwa [reread_nil, hrest] at hcons

end Utf8

open Utf8

/-! ## Names -/

namespace Name

variable {n : Name}

theorem reread_eq_iff {cs : List Char} (hcs : ∀ c ∈ cs, c.toNat < 0x80) :
    reread n = encode cs ↔ n = encode cs := by
  constructor
  · intro h
    have hshown : decodeLossy n = cs := by
      rw [← decodeLossy_encode (decodeLossy n), ← decodeLossy_encode cs]
      exact congrArg decodeLossy h
    rw [← h]
    exact (reread_of_isAscii (hshown ▸ hcs)).symm
  · rintro rfl
    rw [reread, decodeLossy_encode]

theorem reread_eq_nil_iff : reread n = [] ↔ n = [] := @reread_eq_iff n [] (by simp)

theorem reread_eq_here_iff : reread n = here ↔ n = here := @reread_eq_iff n ['.'] (by simp)

theorem reread_eq_up_iff : reread n = up ↔ n = up := @reread_eq_iff n ['.', '.'] (by simp)

/-- A step is shown as a step. -/
theorem IsStep.reread (h : n.IsStep) : IsStep (Utf8.reread n) where
  ne_nil := fun he => h.ne_nil (reread_eq_nil_iff.1 he)
  ne_here := fun he => h.ne_here (reread_eq_here_iff.1 he)
  no_separator := fun hmem => h.no_separator
    (mem_of_mem_decodeLossy (by decide) (mem_of_mem_encode (by decide) hmem))

end Name

/-! ## Paths -/

namespace Path

variable {ns : List Name}

theorem ofString_display (p : Path) : ofString p.display = ⟨reread p.bytes⟩ := by
  rw [ofString, display, toStringLossy, Utf8.ofString, String.toList_ofList]
  rfl

/-- Each name is shown on its own. -/
theorem reread_join (ns : List Name) :
    reread (Text.join separator ns) = Text.join separator (ns.map reread) := by
  induction ns with
  | nil => exact reread_nil
  | cons n ns ih =>
      cases ns with
      | nil => rfl
      | cons m ns =>
          rw [Text.join_cons_cons, reread_append_ascii (by decide), ih]
          rfl

/-- What is read off the text of a way is the way of the names as they are shown. -/
theorem ofString_display_wayOf (ns : List Name) :
    ofString (wayOf ns).display = wayOf (ns.map reread) := by
  rw [ofString_display, wayOf, wayOf]
  by_cases hns : ns = []
  · subst hns
    decide +kernel
  · rw [if_neg hns, if_neg (by simpa using hns)]
    exact congrArg Path.mk (reread_join ns)

theorem advance_reread_iff (n : Name) (ms : List Name) :
    advance ms (reread n) = advance ms n ↔ reread n = n := by
  refine ⟨fun h => ?_, fun h => by rw [h]⟩
  by_cases hup : n = Name.up
  · rw [hup, Name.reread_eq_up_iff.2 rfl]
  · have hshown : reread n ≠ Name.up := fun he => hup (Name.reread_eq_up_iff.1 he)
    rw [advance, advance, if_neg hshown, if_neg hup] at h
    exact (List.cons.inj h).1

theorem isStep_map_reread (hns : ∀ n ∈ ns, n.IsStep) : ∀ n ∈ ns.map reread, Name.IsStep n := by
  intro n hn
  obtain ⟨m, hm, rfl⟩ := List.mem_map.1 hn
  exact (hns m hm).reread

/-- A way is UTF-8 exactly if no name of it is shown as another. -/
theorem isValid_wayOf_iff (hns : ∀ n ∈ ns, n.IsStep) :
    isValid (wayOf ns).bytes = true ↔ ns.map reread = ns := by
  have hpath : reread (wayOf ns).bytes = (wayOf ns).bytes ↔ wayOf (ns.map reread) = wayOf ns := by
    rw [← ofString_display_wayOf, ofString_display]
    exact ⟨congrArg Path.mk, congrArg Path.bytes⟩
  rw [isValid_iff, hpath]
  refine ⟨fun h => ?_, fun h => by rw [h]⟩
  have hroute := congrArg route h
  rw [route_wayOf (isStep_map_reread hns), route_wayOf hns] at hroute
  exact List.map_injective_iff.2 Component.step_injective hroute

end Path

end Stylesheet
