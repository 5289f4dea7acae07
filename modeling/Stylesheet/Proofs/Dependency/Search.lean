import Mathlib.Data.List.Basic
import Mathlib.Data.List.Nodup
import Mathlib.Logic.Relation

set_option autoImplicit false

/-! # Searches that visit nothing twice

`Visits kids stack before after` says that working off the stack, where a file makes way for its
children and what was visited is passed over, turns the list `before` of visited files into
`after`. The relation has no budget and no failures; it is the order of visits and nothing else.

From one file on, the files visited are those that can be reached from it, each once
(`Visits.mem_iff`, `Visits.nodup`).
-/

namespace Stylesheet.Dependency

variable {α : Type} {kids : α → List α} {stack before after : List α}

/-- Working off the stack leads from the visited files `before` to `after`, both in the order of the
visits. Every file is looked into at most once, and the stack may hold files that were visited
before. -/
inductive Visits (kids : α → List α) : List α → List α → List α → Prop
  | done (before : List α) : Visits kids [] before before
  /-- The next file was visited before. -/
  | again {u : α} {rest before after : List α} (seen : u ∈ before)
      (more : Visits kids rest before after) : Visits kids (u :: rest) before after
  /-- The next file is new; its children go first. -/
  | look {u : α} {rest before after : List α} (new : u ∉ before)
      (more : Visits kids (kids u ++ rest) (before ++ [u]) after) :
      Visits kids (u :: rest) before after

namespace Visits

theorem grows (h : Visits kids stack before after) : before <+: after := by
  induction h with
  | done before => exact List.prefix_refl before
  | again seen more ih => exact ih
  | look new more ih => exact (List.prefix_append _ _).trans ih

theorem mem_of_mem (h : Visits kids stack before after) {u : α} (hu : u ∈ before) : u ∈ after :=
  h.grows.subset hu

/-- No file is visited twice. -/
theorem nodup (h : Visits kids stack before after) (hb : before.Nodup) : after.Nodup := by
  induction h with
  | done before => exact hb
  | again seen more ih => exact ih hb
  | look new more ih =>
      refine ih (List.nodup_append'.2 ⟨hb, List.nodup_singleton _, ?_⟩)
      intro v hv hu
      rw [List.mem_singleton] at hu
      exact new (hu ▸ hv)

/-- Everything on the stack is visited in the end. -/
theorem stack_subset (h : Visits kids stack before after) : ∀ u ∈ stack, u ∈ after := by
  induction h with
  | done before => simp
  | again seen more ih =>
      intro v hv
      rcases List.mem_cons.1 hv with rfl | hv
      · exact more.mem_of_mem seen
      · exact ih v hv
  | look new more ih =>
      intro v hv
      rcases List.mem_cons.1 hv with rfl | hv
      · exact more.mem_of_mem (by simp)
      · exact ih v (by simp [hv])

/-- What is visited was visited before or can be reached from the stack. -/
theorem sound (h : Visits kids stack before after) :
    ∀ v ∈ after, v ∈ before ∨ ∃ s ∈ stack, Relation.ReflTransGen (fun u k => k ∈ kids u) s v := by
  induction h with
  | done before => exact fun v hv => Or.inl hv
  | again seen more ih =>
      intro v hv
      rcases ih v hv with hb | ⟨s, hs, hr⟩
      · exact Or.inl hb
      · exact Or.inr ⟨s, List.mem_cons_of_mem _ hs, hr⟩
  | @look u rest before after new more ih =>
      intro v hv
      rcases ih v hv with hb | ⟨s, hs, hr⟩
      · rcases List.mem_append.1 hb with hb | hu
        · exact Or.inl hb
        · rw [List.mem_singleton] at hu
          subst hu
          exact Or.inr ⟨v, by simp, Relation.ReflTransGen.refl⟩
      · rcases List.mem_append.1 hs with hs | hs
        · exact Or.inr ⟨u, by simp, Relation.ReflTransGen.head hs hr⟩
        · exact Or.inr ⟨s, List.mem_cons_of_mem _ hs, hr⟩

/-- If the children of all visited files are visited or on the stack, then in the end they are
all visited. -/
theorem closed (h : Visits kids stack before after)
    (hb : ∀ u ∈ before, ∀ k ∈ kids u, k ∈ before ∨ k ∈ stack) :
    ∀ u ∈ after, ∀ k ∈ kids u, k ∈ after := by
  induction h with
  | done before => exact fun u hu k hk => (hb u hu k hk).resolve_right (by simp)
  | @again u rest before after seen more ih =>
      refine ih fun v hv k hk => ?_
      rcases hb v hv k hk with hk | hk
      · exact Or.inl hk
      · rcases List.mem_cons.1 hk with rfl | hk
        · exact Or.inl seen
        · exact Or.inr hk
  | @look u rest before after new more ih =>
      refine ih fun v hv k hk => ?_
      rcases List.mem_append.1 hv with hv | hv
      · rcases hb v hv k hk with hk | hk
        · exact Or.inl (by simp [hk])
        · rcases List.mem_cons.1 hk with rfl | hk
          · exact Or.inl (by simp)
          · exact Or.inr (by simp [hk])
      · rw [List.mem_singleton] at hv
        subst hv
        exact Or.inr (by simp [hk])

/-- The files visited from one file on are those that it reaches. -/
theorem mem_iff {a : α} (h : Visits kids [a] [] after) (v : α) :
    v ∈ after ↔ Relation.ReflTransGen (fun u k => k ∈ kids u) a v := by
  constructor
  · intro hv
    rcases h.sound v hv with hv | ⟨s, hs, hr⟩
    · simp at hv
    · rw [List.mem_singleton] at hs
      exact hs ▸ hr
  · -- along the way to `v` each file is visited because the one before it was
    intro hr
    have hclosed := h.closed (by simp)
    induction hr with
    | refl => exact h.stack_subset a (by simp)
    | tail _ hk ih => exact hclosed _ ih _ hk

theorem head? {a : α} (h : Visits kids [a] [] after) : after.head? = some a := by
  cases h with
  | again seen more => simp at seen
  | look new more =>
      obtain ⟨others, rfl⟩ := more.grows
      rfl

/-- The files on the stack are worked off from its front to its end. -/
theorem append_iff {rest : List α} :
    Visits kids (stack ++ rest) before after ↔
      ∃ mid, Visits kids stack before mid ∧ Visits kids rest mid after := by
  constructor
  · intro h
    -- by the steps of the search, for whatever is left of the first part of the stack
    generalize hs : stack ++ rest = all at h
    induction h generalizing stack with
    | done before =>
        obtain ⟨rfl, rfl⟩ := List.append_eq_nil_iff.1 hs
        exact ⟨before, done before, done before⟩
    | @again u others before after seen more ih =>
        cases stack with
        | nil =>
            rw [List.nil_append] at hs
            exact ⟨before, done before, hs ▸ again seen more⟩
        | cons v stack =>
            obtain ⟨rfl, rfl⟩ := List.cons.inj hs
            obtain ⟨mid, h, hrest⟩ := ih rfl
            exact ⟨mid, again seen h, hrest⟩
    | @look u others before after new more ih =>
        cases stack with
        | nil =>
            rw [List.nil_append] at hs
            exact ⟨before, done before, hs ▸ look new more⟩
        | cons v stack =>
            obtain ⟨rfl, rfl⟩ := List.cons.inj hs
            obtain ⟨mid, h, hrest⟩ := ih (List.append_assoc _ _ _)
            exact ⟨mid, look new h, hrest⟩
  · rintro ⟨mid, h, hrest⟩
    induction h with
    | done before => exact hrest
    | again seen more ih => exact again seen (ih hrest)
    | look new more ih =>
        have hmore := ih hrest
        rw [List.append_assoc] at hmore
        exact look new hmore

/-- A search has one outcome. -/
theorem unique {after' : List α} (h : Visits kids stack before after)
    (h' : Visits kids stack before after') : after = after' := by
  induction h with
  | done before => cases h'; rfl
  | again seen more ih =>
      cases h' with
      | again seen' more' => exact ih more'
      | look new' more' => exact absurd seen new'
  | look new more ih =>
      cases h' with
      | again seen' more' => exact absurd seen' new
      | look new' more' => exact ih more'

end Visits

end Stylesheet.Dependency
