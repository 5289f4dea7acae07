import Stylesheet.Proofs.Dependency.Search

set_option autoImplicit false

/-! # Searches that remember nothing

`Unfolds kids stack met` says that a search which forgets what it visited meets the files `met`:
each file on the stack, and after it all that its children unfold to. Where that ends, the files
met for the first time are those that a search visiting nothing twice visits, in the same order
(`Unfolds.visits`): a file met again has nothing new below it, because no file lies below itself
(`Unfolds.not_mem_self`).
-/

namespace Stylesheet.Dependency

variable {α : Type}

/-- Each file on the stack is met, then everything below it, then the rest of the stack. Nothing is
remembered, so a file is met as often as it is imported, and nothing unfolds a circle. -/
inductive Unfolds (kids : α → List α) : List α → List α → Prop
  | done : Unfolds kids [] []
  | meet {u : α} {rest inner outer : List α} (below : Unfolds kids (kids u) inner)
      (more : Unfolds kids rest outer) : Unfolds kids (u :: rest) (u :: (inner ++ outer))

/-- The files `seen`, and after them those of `met` that are new, each once. -/
def once [DecidableEq α] (seen met : List α) : List α :=
  met.foldl (fun seen u => if u ∈ seen then seen else seen ++ [u]) seen

section Once

variable [DecidableEq α]

theorem once_cons (seen met : List α) (u : α) :
    once seen (u :: met) = once (if u ∈ seen then seen else seen ++ [u]) met := rfl

theorem once_append (seen met more : List α) :
    once seen (met ++ more) = once (once seen met) more := List.foldl_append

theorem mem_once {seen met : List α} {v : α} : v ∈ once seen met ↔ v ∈ seen ∨ v ∈ met := by
  induction met generalizing seen with
  | nil => simp [once]
  | cons u met ih =>
      rw [once_cons, ih, List.mem_cons]
      split
      · next hu =>
          constructor
          · rintro (h | h)
            · exact Or.inl h
            · exact Or.inr (Or.inr h)
          · rintro (h | rfl | h)
            · exact Or.inl h
            · exact Or.inl hu
            · exact Or.inr h
      · rw [List.mem_append, List.mem_singleton, or_assoc]

/-- What was seen is not added. -/
theorem once_of_subset {seen met : List α} (h : ∀ v ∈ met, v ∈ seen) : once seen met = seen := by
  induction met with
  | nil => rfl
  | cons u met ih =>
      rw [once_cons, if_pos (h u (by simp))]
      exact ih fun v hv => h v (List.mem_cons_of_mem u hv)

end Once

namespace Unfolds

variable {kids : α → List α} {stack met : List α}

/-- What a stack unfolds to is determined. -/
theorem unique {met' : List α} (h : Unfolds kids stack met) (h' : Unfolds kids stack met') :
    met = met' := by
  induction h generalizing met' with
  | done => cases h'; rfl
  | meet below more ihBelow ihMore =>
      cases h' with
      | meet below' more' => rw [ihBelow below', ihMore more']

theorem append {rest : List α} (h : Unfolds kids (stack ++ rest) met) :
    ∃ first last, Unfolds kids stack first ∧ Unfolds kids rest last ∧ met = first ++ last := by
  induction stack generalizing met with
  | nil => exact ⟨[], met, done, h, rfl⟩
  | cons u stack ih =>
      cases h with
      | @meet _ _ inner outer below more =>
          obtain ⟨first, last, hfirst, hlast, rfl⟩ := ih more
          refine ⟨u :: (inner ++ first), last, meet below hfirst, hlast, ?_⟩
          rw [List.cons_append, List.append_assoc]

/-- What lies below a file that is met is met too, and is less. -/
theorem below_of_mem (h : Unfolds kids stack met) {v : α} (hv : v ∈ met) :
    ∃ inner, Unfolds kids (kids v) inner ∧ inner.length < met.length ∧ ∀ w ∈ inner, w ∈ met := by
  induction h with
  | done => cases hv
  | @meet u rest inner outer below more ihBelow ihMore =>
      rcases List.mem_cons.1 hv with rfl | hv
      · have hlen : inner.length < (v :: (inner ++ outer)).length := by
          rw [List.length_cons, List.length_append]
          omega
        exact ⟨inner, below, hlen, fun w hw => by simp [hw]⟩
      · rcases List.mem_append.1 hv with hv | hv
        · obtain ⟨deeper, hd, hlen, hsub⟩ := ihBelow hv
          refine ⟨deeper, hd, ?_, fun w hw => by simp [hsub w hw]⟩
          rw [List.length_cons, List.length_append]
          omega
        · obtain ⟨deeper, hd, hlen, hsub⟩ := ihMore hv
          refine ⟨deeper, hd, ?_, fun w hw => by simp [hsub w hw]⟩
          rw [List.length_cons, List.length_append]
          omega

/-- No file lies below itself. -/
theorem not_mem_self {u : α} (h : Unfolds kids (kids u) met) : u ∉ met := by
  intro hu
  obtain ⟨inner, hinner, hlen, -⟩ := h.below_of_mem hu
  rw [hinner.unique h] at hlen
  exact Nat.lt_irrefl _ hlen

theorem below_subset (h : Unfolds kids stack met) {v : α} (hv : v ∈ met) {inner : List α}
    (hinner : Unfolds kids (kids v) inner) : ∀ w ∈ inner, w ∈ met := by
  obtain ⟨inner', hinner', -, hsub⟩ := h.below_of_mem hv
  rwa [hinner.unique hinner']

variable [DecidableEq α] {looks : α → List α}

/-- **Remembering changes nothing but repetitions.** A search that looks into the files met for
the first time visits them in the order in which they are met, provided that all below a file
seen before was seen before, too. -/
theorem visits (h : Unfolds kids stack met) {seen : List α}
    (hlooks : ∀ v ∈ met, v ∉ seen → looks v = kids v)
    (hseen : ∀ v ∈ met, v ∈ seen → ∀ inner, Unfolds kids (kids v) inner → ∀ w ∈ inner, w ∈ seen) :
    Visits looks stack seen (once seen met) := by
  induction h generalizing seen with
  | done => exact .done seen
  | @meet u rest inner outer below more ihBelow ihMore =>
      rw [once_cons, once_append]
      by_cases hu : u ∈ seen
      -- a file seen before has nothing new below it, and the search passes it over
      · rw [if_pos hu, once_of_subset (hseen u (by simp) hu inner below)]
        refine .again hu (ihMore (fun v hv => hlooks v (by simp [hv])) ?_)
        exact fun v hv => hseen v (by simp [hv])
      -- a new one is looked into, so all below it comes before the rest
      · rw [if_neg hu]
        refine .look hu (Visits.append_iff.2 ⟨once (seen ++ [u]) inner, ?_, ?_⟩)
        · rw [hlooks u (by simp) hu]
          refine ihBelow (fun v hv hnew => hlooks v (by simp [hv]) ?_) fun v hv hmem l hl w hw => ?_
          · exact fun hs => hnew (List.mem_append_left _ hs)
          · rcases List.mem_append.1 hmem with hs | hs
            · exact List.mem_append_left _ (hseen v (by simp [hv]) hs l hl w hw)
            · rw [List.mem_singleton.1 hs] at hv
              exact absurd hv below.not_mem_self
        · refine ihMore (fun v hv hnew => hlooks v (by simp [hv]) ?_) fun v hv hmem l hl w hw => ?_
          · exact fun hs => hnew (mem_once.2 (Or.inl (List.mem_append_left _ hs)))
          -- what lies below a file seen by now was seen with it
          · rcases mem_once.1 hmem with hs | hs
            · rcases List.mem_append.1 hs with hs | hs
              · have hw := hseen v (by simp [hv]) hs l hl w hw
                exact mem_once.2 (Or.inl (List.mem_append_left _ hw))
              · rw [List.mem_singleton.1 hs] at hl
                exact mem_once.2 (Or.inr (hl.unique below ▸ hw))
            · exact mem_once.2 (Or.inr (below.below_subset hs hl w hw))

/-- The same for a search from one file. The file may be met again below, and then have fewer
children than at the start: the first ones only. -/
theorem visits_from {entry : α} (h : Unfolds kids (looks entry) met)
    (hlooks : ∀ v ∈ met, v ≠ entry → looks v = kids v)
    (hentry : entry ∈ met → kids entry <+: looks entry) :
    Visits looks [entry] [] (once [] (entry :: met)) := by
  rw [once_cons, if_neg (by simp), List.nil_append]
  refine .look (by simp) ?_
  rw [List.append_nil, List.nil_append]
  have hnew : ∀ v ∈ met, v ∉ [entry] → looks v = kids v :=
    fun v hv hne => hlooks v hv fun he => hne (he ▸ by simp)
  by_cases hmem : entry ∈ met
  -- the entry can only be met again below those of its children that it no longer leads to then
  · obtain ⟨others, hothers⟩ := hentry hmem
    rw [← hothers] at h ⊢
    obtain ⟨first, last, hfirst, hlast, rfl⟩ := h.append
    rw [once_append]
    refine Visits.append_iff.2 ⟨once [entry] first, ?_, ?_⟩
    · refine hfirst.visits (fun v hv => hnew v (by simp [hv])) fun v hv hs => ?_
      rw [List.mem_singleton.1 hs] at hv
      exact absurd hv hfirst.not_mem_self
    · refine hlast.visits (fun v hv hs => hnew v (by simp [hv]) ?_) fun v hv hs l hl w hw => ?_
      · exact fun he => hs (mem_once.2 (Or.inl he))
      · rcases mem_once.1 hs with hs | hs
        · rw [List.mem_singleton.1 hs] at hl
          exact mem_once.2 (Or.inr (hl.unique hfirst ▸ hw))
        · exact mem_once.2 (Or.inr (hfirst.below_subset hs hl w hw))
  · refine h.visits hnew fun v hv hs => ?_
    rw [List.mem_singleton.1 hs] at hv
    exact absurd hv hmem

end Unfolds

end Stylesheet.Dependency
