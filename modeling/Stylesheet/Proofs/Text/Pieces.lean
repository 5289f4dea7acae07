import Mathlib.Data.List.Infix
import Mathlib.Data.List.TakeWhile
import Mathlib.Tactic.Common
import Stylesheet.Text.Split

set_option autoImplicit false

/-! # Laws of cutting

A text is cut where a separator stands, and nothing else about it matters: the pieces of a text
read in two parts (`pieces_append_of_sep`, `pieces_append_of_forall`), the pieces of joined
pieces (`pieces_join`), and what the last place of an element or of a word divides a text into
(`eq_of_cutAtLast?`, `cutAtLast?_eq_some_iff`).
-/

namespace Stylesheet.Text

variable {α : Type}

/-! ## Pieces -/

@[simp] theorem join_cons_cons (s : α) (p q : List α) (ps : List (List α)) :
    join s (p :: q :: ps) = p ++ s :: join s (q :: ps) := rfl

theorem join_cons_of_ne_nil (s : α) (p : List α) {ps : List (List α)} (h : ps ≠ []) :
    join s (p :: ps) = p ++ s :: join s ps := by
  cases ps with
  | nil => exact absurd rfl h
  | cons q qs => rfl

theorem join_eq_nil_iff (s : α) {ps : List (List α)} (h : ps ≠ []) : join s ps = [] ↔ ps = [[]] := by
  match ps with
  | [] => exact absurd rfl h
  | [p] => simp [join]
  | p :: q :: ps => simp

/-- What stands in joined pieces is the separator or stands in one of them. -/
theorem mem_of_mem_join {s a : α} {ps : List (List α)} (h : a ∈ join s ps) :
    a = s ∨ ∃ p ∈ ps, a ∈ p := by
  induction ps with
  | nil => cases h
  | cons p ps ih =>
      cases ps with
      | nil => exact .inr ⟨p, by simp, h⟩
      | cons q ps =>
          rw [join_cons_cons, List.mem_append, List.mem_cons] at h
          rcases h with h | rfl | h
          · exact .inr ⟨p, by simp, h⟩
          · exact .inl rfl
          · exact (ih h).imp_right fun ⟨r, hr, ha⟩ => ⟨r, List.mem_cons_of_mem p hr, ha⟩

/-- Pieces with one more at the end. -/
theorem join_concat (s : α) {ps : List (List α)} (h : ps ≠ []) (p : List α) :
    join s (ps ++ [p]) = join s ps ++ s :: p := by
  induction ps with
  | nil => exact absurd rfl h
  | cons q qs ih =>
      cases qs with
      | nil => rfl
      | cons r rs =>
          have hr := ih (List.cons_ne_nil r rs)
          rw [List.cons_append, join_cons_of_ne_nil s q (by simp), hr]
          simp

/-- Pieces with the separator in front of each, and not only between them. -/
theorem flatMap_eq_join (s : α) {ps : List (List α)} (h : ps ≠ []) :
    ps.flatMap (s :: ·) = s :: join s ps := by
  induction ps with
  | nil => exact absurd rfl h
  | cons p ps ih =>
      by_cases hps : ps = []
      · subst hps
        simp [join]
      · rw [List.flatMap_cons, ih hps, join_cons_of_ne_nil s p hps, List.cons_append]

/-- The first piece, and then each other piece with the separator in front of it. -/
theorem join_cons (s : α) (p : List α) (ps : List (List α)) :
    join s (p :: ps) = p ++ ps.flatMap (s :: ·) := by
  by_cases h : ps = []
  · subst h
    exact (List.append_nil p).symm
  · rw [join_cons_of_ne_nil s p h, flatMap_eq_join s h]

/-- Writing at the end of the last piece. -/
theorem join_append_last (s : α) (ps : List (List α)) (p t : List α) :
    join s (ps ++ [p ++ t]) = join s (ps ++ [p]) ++ t := by
  by_cases h : ps = []
  · subst h
    rfl
  · rw [join_concat s h, join_concat s h, List.append_assoc, List.cons_append]

/-- A text is cut at a separator that stands in it. -/
theorem pieces_append_of_sep {sep : α → Bool} {a : α} (ha : sep a = true) (as bs : List α) :
    pieces sep (as ++ a :: bs) = pieces sep as ++ pieces sep bs := by
  induction as with
  | nil => simp [pieces, ha]
  | cons b as ih =>
      by_cases hb : sep b = true
      · simp [pieces, hb, ih]
      · cases hp : pieces sep as with
        | nil => exact absurd hp (pieces_ne_nil _ _)
        | cons p ps => simp [pieces, hb, ih, hp]

/-- What stands before the first separator belongs to the first piece. -/
theorem pieces_append_of_forall {sep : α → Bool} {as bs p : List α} {ps : List (List α)}
    (h : ∀ a ∈ as, sep a = false) (hp : pieces sep bs = p :: ps) :
    pieces sep (as ++ bs) = (as ++ p) :: ps := by
  induction as with
  | nil => exact hp
  | cons a as ih =>
      have ha := h a (by simp)
      rw [List.cons_append, pieces, ha, if_neg Bool.false_ne_true,
        ih fun b hb => h b (List.mem_cons_of_mem a hb)]
      rfl

/-- Pieces with a separator in front of each are found again. -/
theorem pieces_flatMap {sep : α → Bool} {a : α} (ha : sep a = true) {ps : List (List α)}
    (h : ∀ p ∈ ps, ∀ b ∈ p, sep b = false) : pieces sep (ps.flatMap (a :: ·)) = [] :: ps := by
  induction ps with
  | nil => rfl
  | cons p ps ih =>
      have hps := ih fun q hq => h q (List.mem_cons_of_mem p hq)
      have hp := pieces_append_of_forall (h p (by simp)) hps
      rw [List.flatMap_cons, List.cons_append, pieces, if_pos ha, hp, List.append_nil]

/-- A text without a separator is its only piece. -/
theorem pieces_of_forall {sep : α → Bool} {as : List α} (h : ∀ a ∈ as, sep a = false) :
    pieces sep as = [as] := by
  have hp := @pieces_append_of_forall _ sep as [] [] [] h rfl
  rwa [List.append_nil] at hp

/-- A text whose elements are replaced is cut where the text is. -/
theorem pieces_map {β : Type} {f : α → β} {sep : α → Bool} {sep' : β → Bool}
    (h : ∀ a, sep' (f a) = sep a) (as : List α) :
    pieces sep' (as.map f) = (pieces sep as).map (List.map f) := by
  induction as with
  | nil => rfl
  | cons a as ih =>
      rw [List.map_cons, pieces, pieces, ih, h]
      split
      · rfl
      · cases pieces sep as <;> rfl

/-- Pieces hold nothing that the text does not hold. -/
theorem mem_of_mem_pieces {sep : α → Bool} {as p : List α} {a : α} (hp : p ∈ pieces sep as)
    (ha : a ∈ p) : a ∈ as := by
  induction as generalizing p with
  | nil =>
      rw [pieces, List.mem_singleton] at hp
      exact hp ▸ ha
  | cons b as ih =>
      rw [pieces] at hp
      split at hp
      · rcases List.mem_cons.1 hp with rfl | hp
        · cases ha
        · exact List.mem_cons_of_mem b (ih hp ha)
      · cases hq : pieces sep as with
        | nil => exact absurd hq (pieces_ne_nil _ _)
        | cons q qs =>
            rw [hq] at hp
            rcases List.mem_cons.1 hp with rfl | hp
            · rcases List.mem_cons.1 ha with rfl | ha
              · simp
              · exact List.mem_cons_of_mem b (ih (hq ▸ List.mem_cons_self) ha)
            · exact List.mem_cons_of_mem b (ih (hq ▸ List.mem_cons_of_mem q hp) ha)

section Separators

variable [BEq α] [LawfulBEq α]

theorem pieces_append_sep (s : α) (as bs : List α) :
    pieces (· == s) (as ++ s :: bs) = pieces (· == s) as ++ pieces (· == s) bs :=
  @pieces_append_of_sep _ (· == s) s (beq_self_eq_true s) as bs

theorem pieces_of_not_mem {s : α} {as : List α} (h : s ∉ as) : pieces (· == s) as = [as] :=
  pieces_of_forall fun _ ha => beq_false_of_ne fun e => h (e ▸ ha)

/-- Pieces without a separator are found again. -/
theorem pieces_join {s : α} {ps : List (List α)} (hne : ps ≠ []) (h : ∀ p ∈ ps, s ∉ p) :
    pieces (· == s) (join s ps) = ps := by
  induction ps with
  | nil => exact absurd rfl hne
  | cons p qs ih =>
      cases qs with
      | nil => exact pieces_of_not_mem (h p (by simp))
      | cons q qs =>
          rw [join_cons_cons, pieces_append_sep, pieces_of_not_mem (h p (by simp)),
            ih (by simp) fun r hr => h r (List.mem_cons_of_mem p hr)]
          rfl

end Separators

/-! ## The ends of a text -/

theorem afterLast_of_forall {p : α → Bool} {as : List α} (h : ∀ a ∈ as, p a = false) :
    afterLast p as = as := by
  rw [afterLast, List.takeWhile_eq_self_iff.2, List.reverse_reverse]
  intro a ha
  simp [h a (List.mem_reverse.1 ha)]

/-- What follows the last place in a text whose elements are replaced. -/
theorem afterLast_map {β : Type} {f : α → β} {p : α → Bool} {p' : β → Bool}
    (h : ∀ a, p' (f a) = p a) (as : List α) :
    afterLast p' (as.map f) = (afterLast p as).map f := by
  have hp : (fun b => !p' b) ∘ f = fun a => !p a := by
    funext a
    simp [h a]
  calc afterLast p' (as.map f)
      = ((as.reverse.map f).takeWhile fun b => !p' b).reverse := by
        rw [afterLast, List.map_reverse]
    _ = ((as.reverse.takeWhile fun a => !p a).map f).reverse := by rw [List.takeWhile_map, hp]
    _ = (afterLast p as).map f := by rw [afterLast, List.map_reverse]

/-- What follows the last place in two texts follows it in the second, if there it stands. -/
theorem afterLast_append (p : α → Bool) (as bs : List α) :
    afterLast p (as ++ bs) =
      if ∀ b ∈ bs, p b = false then afterLast p as ++ bs else afterLast p bs := by
  rw [afterLast, List.reverse_append, List.takeWhile_append]
  by_cases h : ∀ b ∈ bs, p b = false
  · have hall : List.takeWhile (fun a => !p a) bs.reverse = bs.reverse :=
      List.takeWhile_eq_self_iff.2 fun a ha => by simp [h a (List.mem_reverse.1 ha)]
    rw [hall, if_pos rfl, if_pos h, List.reverse_append, List.reverse_reverse, afterLast]
  · have hall : (List.takeWhile (fun a => !p a) bs.reverse).length ≠ bs.reverse.length := by
      intro hlen
      refine h fun b hb => ?_
      have hself := (List.takeWhile_prefix (fun a => !p a)).eq_of_length hlen
      have hp := List.takeWhile_eq_self_iff.1 hself b (List.mem_reverse.2 hb)
      simpa using hp
    rw [if_neg hall, if_neg h, afterLast]

theorem mem_of_mem_afterLast {p : α → Bool} {as : List α} {a : α} (h : a ∈ afterLast p as) :
    a ∈ as :=
  List.mem_reverse.1 ((List.takeWhile_sublist _).subset (List.mem_reverse.1 h))

/-- The last place itself is not what follows it. -/
theorem not_of_mem_afterLast {p : α → Bool} {as : List α} {a : α} (h : a ∈ afterLast p as) :
    p a = false := by
  have hp := List.mem_takeWhile_imp (List.mem_reverse.1 h)
  simpa using hp

theorem dropEndWhile_isPrefix (p : α → Bool) (as : List α) : dropEndWhile p as <+: as := by
  have hsuffix := List.reverse_prefix.2 (List.dropWhile_suffix (l := as.reverse) p)
  rwa [List.reverse_reverse] at hsuffix

/-- A text that something is left of ends with an element that stays. -/
theorem dropEndWhile_eq_nil_or_concat (p : α → Bool) (as : List α) :
    dropEndWhile p as = [] ∨ ∃ bs b, dropEndWhile p as = bs ++ [b] ∧ p b = false := by
  unfold dropEndWhile
  cases h : as.reverse.dropWhile p with
  | nil => exact Or.inl rfl
  | cons b bs =>
      refine Or.inr ⟨bs.reverse, b, List.reverse_cons, ?_⟩
      have hhead := @List.head_dropWhile_not _ p as.reverse (by simp [h])
      simpa [h] using hhead

/-- What follows the last place stands behind what leads up to it. -/
theorem dropEndWhile_append_afterLast (p : α → Bool) (as : List α) :
    dropEndWhile (fun a => !p a) as ++ afterLast p as = as := by
  calc dropEndWhile (fun a => !p a) as ++ afterLast p as
      = (as.reverse.takeWhile (fun a => !p a) ++ as.reverse.dropWhile fun a => !p a).reverse := by
        rw [dropEndWhile, afterLast, List.reverse_append]
    _ = as := by rw [List.takeWhile_append_dropWhile, List.reverse_reverse]

/-- What is trimmed may stand in front. -/
theorem trimWhile_append {p : α → Bool} {as : List α} (h : ∀ a ∈ as, p a = true) (bs : List α) :
    trimWhile p (as ++ bs) = trimWhile p bs := by
  rw [trimWhile, List.dropWhile_append_of_pos h, trimWhile]

/-- More text at the end only adds to a trimmed text. -/
theorem trimWhile_isPrefix {p : α → Bool} {as bs : List α} (h : as <+: bs) :
    trimWhile p as <+: trimWhile p bs := by
  obtain ⟨rest, rfl⟩ := h
  rw [trimWhile, trimWhile, List.dropWhile_append]
  split
  · next hnil =>
      rw [List.isEmpty_iff] at hnil
      rw [hnil]
      exact List.nil_prefix
  · generalize as.dropWhile p = cs
    unfold dropEndWhile
    rw [List.reverse_append, List.dropWhile_append]
    split
    · exact List.prefix_rfl
    · rw [List.reverse_append, List.reverse_reverse]
      exact (dropEndWhile_isPrefix p cs).trans (List.prefix_append _ _)

/-- A text with nothing to trim at either end. -/
theorem trimWhile_cons_concat {p : α → Bool} {a b : α} (ha : p a = false) (hb : p b = false)
    (as : List α) : trimWhile p (a :: (as ++ [b])) = a :: (as ++ [b]) := by
  have h : (a :: (as ++ [b])).reverse = b :: (a :: as).reverse := by simp
  rw [trimWhile, List.dropWhile_cons_of_neg (by simp [ha]), dropEndWhile, h,
    List.dropWhile_cons_of_neg (by simp [hb]), ← h, List.reverse_reverse]

theorem trimWhile_of_forall {p : α → Bool} {as : List α} (h : ∀ a ∈ as, p a = false) :
    trimWhile p as = as := by
  rcases as.eq_nil_or_concat' with rfl | ⟨as, b, rfl⟩
  · rfl
  · cases as with
    | nil => simp [trimWhile, dropEndWhile, h b]
    | cons a as => exact trimWhile_cons_concat (h a (by simp)) (h b (by simp)) as

theorem mem_of_mem_trimWhile {p : α → Bool} {as : List α} {a : α} (h : a ∈ trimWhile p as) :
    a ∈ as := by
  have hd := (List.dropWhile_sublist _).subset (List.mem_reverse.1 h)
  exact (List.dropWhile_sublist _).subset (List.mem_reverse.1 hd)

/-! ## The last place -/

/-- What stands before the first element of a word belongs to no place of the word. -/
theorem infix_append_of_not_mem {c : α} {w as bs : List α} (h : c ∉ as) :
    (c :: w) <:+: as ++ bs ↔ (c :: w) <:+: bs := by
  induction as with
  | nil => rfl
  | cons a as ih =>
      obtain ⟨hca, has⟩ := not_or.1 (List.mem_cons.not.1 h)
      rw [List.cons_append, List.infix_cons_iff, List.cons_prefix_cons, ih has]
      simp [hca]

/-- Two elements that follow each other in a text, when one more is written. -/
theorem infix_pair_concat_iff {x y a : α} {as : List α} :
    [x, y] <:+: as ++ [a] ↔ [x, y] <:+: as ∨ as.getLast? = some x ∧ a = y := by
  rw [List.infix_concat_iff, or_comm, List.getLast?_eq_some_iff]
  refine or_congr_right ?_
  constructor
  · rintro ⟨before, h⟩
    have hsplit : before ++ [x] ++ [y] = as ++ [a] := by simpa using h
    obtain ⟨hbefore, hlast⟩ := List.append_inj' hsplit rfl
    exact ⟨⟨before, hbefore.symm⟩, (List.singleton_inj.1 hlast).symm⟩
  · rintro ⟨⟨before, rfl⟩, rfl⟩
    exact ⟨before, by simp⟩

section LastPlace

variable [DecidableEq α]

theorem eq_of_cutAtLast? {w as before rest : List α} (h : cutAtLast? w as = some (before, rest)) :
    as = before ++ (w ++ rest) := by
  induction as generalizing before with
  | nil =>
      obtain ⟨r, hr, he⟩ := Option.map_eq_some_iff.1 h
      obtain ⟨rfl, rfl⟩ := Prod.mk.inj he
      simpa using after?_eq_some_iff.1 hr
  | cons a as ih =>
      rw [cutAtLast?_cons] at h
      cases hc : cutAtLast? w as with
      | some cut =>
          obtain ⟨b, r⟩ := cut
          rw [hc] at h
          simp only [Option.some.injEq, Prod.mk.injEq] at h
          obtain ⟨rfl, rfl⟩ := h
          rw [List.cons_append, ← ih hc]
      | none =>
          rw [hc] at h
          obtain ⟨r, hr, he⟩ := Option.map_eq_some_iff.1 h
          obtain ⟨rfl, rfl⟩ := Prod.mk.inj he
          simpa using after?_eq_some_iff.1 hr

theorem after?_eq_none_iff {w as : List α} : after? w as = none ↔ ¬ w <+: as := by
  rw [Option.eq_none_iff_forall_not_mem]
  constructor
  · rintro h ⟨rest, rfl⟩
    exact h rest (after?_eq_some_iff.2 rfl)
  · intro h rest hrest
    exact h ⟨rest, (after?_eq_some_iff.1 hrest).symm⟩

/-- A search that tries a word at each place of a text fails exactly if the word stands nowhere. -/
theorem eq_none_iff_of_tries {β : Type} {w : List α} {search : List α → Option β}
    (hnil : search [] = none ↔ after? w [] = none)
    (hcons : ∀ a as, search (a :: as) = none ↔ after? w (a :: as) = none ∧ search as = none)
    (as : List α) : search as = none ↔ ¬ w <:+: as := by
  induction as with
  | nil => rw [hnil, after?_eq_none_iff, List.infix_nil, List.prefix_nil]
  | cons a as ih => rw [hcons, after?_eq_none_iff, ih, List.infix_cons_iff, not_or]

theorem cutAt?_eq_none_iff {w as : List α} : cutAt? w as = none ↔ ¬ w <:+: as := by
  refine eq_none_iff_of_tries Option.map_eq_none_iff (fun a as => ?_) as
  rw [cutAt?_cons]
  cases after? w (a :: as) <;> simp

/-- A text is cut at the first place of a word: in front of it the word does not stand. -/
theorem eq_of_cutAt? {w as before rest : List α} (hw : w ≠ [])
    (h : cutAt? w as = some (before, rest)) : as = before ++ (w ++ rest) ∧ ¬ w <:+: before := by
  induction as generalizing before with
  | nil =>
      obtain ⟨r, hr, -⟩ := Option.map_eq_some_iff.1 h
      have hnil := after?_eq_some_iff.1 hr
      exact absurd (List.append_eq_nil_iff.1 hnil.symm).1 hw
  | cons a as ih =>
      rw [cutAt?_cons] at h
      cases hafter : after? w (a :: as) with
      | some r =>
          rw [hafter] at h
          simp only [Option.some.injEq, Prod.mk.injEq] at h
          obtain ⟨rfl, rfl⟩ := h
          have hstart : a :: as = w ++ r := after?_eq_some_iff.1 hafter
          exact ⟨hstart, fun hin => hw (List.infix_nil.1 hin)⟩
      | none =>
          rw [hafter] at h
          obtain ⟨⟨b, r⟩, hcut, he⟩ := Option.map_eq_some_iff.1 h
          obtain ⟨rfl, rfl⟩ := Prod.mk.inj he
          obtain ⟨has, hnot⟩ := ih hcut
          have hcons : a :: as = (a :: b) ++ (w ++ r) := by rw [has, List.cons_append]
          refine ⟨hcons, fun hin => ?_⟩
          rcases List.infix_cons_iff.1 hin with hstart | hin
          · have hstands : w <+: a :: as := hcons ▸ hstart.trans (List.prefix_append _ _)
            exact after?_eq_none_iff.1 hafter hstands
          · exact hnot hin

/-- A word stands in a text if it is a part of it. -/
theorem occursIn_iff {w as : List α} : occursIn w as = true ↔ w <:+: as := by
  rw [occursIn, Option.isSome_iff_ne_none, ne_eq, cutAt?_eq_none_iff, not_not]

theorem cutAtLast?_eq_none_iff {w as : List α} : cutAtLast? w as = none ↔ ¬ w <:+: as := by
  refine eq_none_iff_of_tries Option.map_eq_none_iff (fun a as => ?_) as
  rw [cutAtLast?_cons]
  cases cutAtLast? w as <;> simp

/-- **The last place of a word** is the one that the word does not stand behind, if the word does not
hold its first element again and so cannot overlap itself. -/
theorem cutAtLast?_eq_some_iff {c : α} {w as before rest : List α} (hc : c ∉ w) :
    cutAtLast? (c :: w) as = some (before, rest) ↔
      as = before ++ (c :: w ++ rest) ∧ ¬ (c :: w) <:+: rest := by
  constructor
  · intro h
    have heq := eq_of_cutAtLast? h
    refine ⟨heq, fun hrest => ?_⟩
    induction as generalizing before with
    | nil => simp at heq
    | cons a as ih =>
        rw [cutAtLast?_cons] at h
        cases hcut : cutAtLast? (c :: w) as with
        | some cut =>
            obtain ⟨b, r⟩ := cut
            rw [hcut] at h
            simp only [Option.some.injEq, Prod.mk.injEq] at h
            obtain ⟨rfl, rfl⟩ := h
            exact ih hcut (List.cons.inj heq).2
        | none =>
            rw [hcut] at h
            obtain ⟨r, -, he⟩ := Option.map_eq_some_iff.1 h
            obtain ⟨rfl, rfl⟩ := Prod.mk.inj he
            have hsuffix : r <:+ as := ⟨w, (List.cons.inj heq).2.symm⟩
            exact cutAtLast?_eq_none_iff.1 hcut (hrest.trans hsuffix.isInfix)
  · rintro ⟨rfl, hrest⟩
    induction before with
    | nil =>
        have hnone : cutAtLast? (c :: w) (w ++ rest) = none :=
          cutAtLast?_eq_none_iff.2 fun h => hrest ((infix_append_of_not_mem hc).1 h)
        have hafter : after? (c :: w) (c :: (w ++ rest)) = some rest := after?_eq_some_iff.2 rfl
        rw [List.nil_append, List.cons_append, cutAtLast?_cons, hnone]
        exact congrArg (Option.map _) hafter
    | cons b before ih => rw [List.cons_append, cutAtLast?_cons, ih]

/-! ### Words of one element -/

theorem not_mem_of_cutAtLast?_eq_none {c : α} {as : List α} (h : cutAtLast? [c] as = none) :
    c ∉ as := by
  rwa [cutAtLast?_eq_none_iff, List.singleton_infix_iff] at h

/-- What follows the last place of an element does not hold it. -/
theorem not_mem_of_cutAtLast? {c : α} {as before rest : List α}
    (h : cutAtLast? [c] as = some (before, rest)) : c ∉ rest := by
  obtain ⟨-, hrest⟩ := (cutAtLast?_eq_some_iff List.not_mem_nil).1 h
  rwa [List.singleton_infix_iff] at hrest

theorem cutAtLast?_append {c : α} (before : List α) {rest : List α} (h : c ∉ rest) :
    cutAtLast? [c] (before ++ c :: rest) = some (before, rest) := by
  rw [cutAtLast?_eq_some_iff List.not_mem_nil, List.singleton_infix_iff]
  exact ⟨rfl, h⟩

end LastPlace

end Stylesheet.Text
