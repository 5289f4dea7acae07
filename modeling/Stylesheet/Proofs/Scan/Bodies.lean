import Stylesheet.Proofs.Scan.Reading

set_option autoImplicit false

/-! # What the body of a statement imports

The body of a statement is what follows its last brace, and only there a directive is looked for
(`bodyImports`). Its specifiers are parts of it (`mem_of_mem_bodyImports`), and whoever knows only
the start of a body finds the first of its specifiers (`bodyImports_isPrefix`).
-/

namespace Stylesheet.Scan

def bodyImports (cs : List Char) : List (List Char) :=
  match directive? (Text.trim cs) with
  | some (d, rest) => if startsArguments rest then directiveImports d rest else []
  | none => []

theorem statementImports_eq (cs : List Char) :
    statementImports cs = bodyImports (Text.afterLast isBrace cs) := rfl

/-- The words of directives cannot be mistaken for one another. -/
theorem directive?_eq_some_iff {d : Directive} {cs rest : List Char} :
    directive? cs = some (d, rest) ↔ cs = d.word ++ rest := by
  constructor
  · intro h
    obtain ⟨w, -, hw⟩ := List.exists_of_findSome?_eq_some h
    obtain ⟨r, hr, he⟩ := Option.map_eq_some_iff.1 hw
    obtain ⟨rfl, rfl⟩ := Prod.mk.inj he
    exact Text.after?_eq_some_iff.1 hr
  · rintro rfl
    cases d <;> rfl

/-! ## Specifiers are parts of a body -/

theorem mem_of_mem_argumentsFrom {s : ArgumentState} {cs a : List Char} {c : Char}
    (ha : a ∈ argumentsFrom s cs) (hc : c ∈ a) : c ∈ cs := by
  induction cs generalizing s a with
  | nil =>
      rw [argumentsFrom, List.mem_singleton] at ha
      exact ha ▸ hc
  | cons e cs ih =>
      rw [argumentsFrom] at ha
      split at ha
      · rcases List.mem_cons.1 ha with rfl | ha
        · cases hc
        · exact List.mem_cons_of_mem e (ih ha hc)
      · split at ha
        · rw [List.mem_singleton.1 ha, List.mem_singleton] at hc
          exact hc ▸ List.mem_cons_self
        · next b bs hb =>
            rcases List.mem_cons.1 ha with rfl | ha
            · rcases List.mem_cons.1 hc with rfl | hc
              · exact List.mem_cons_self
              · exact List.mem_cons_of_mem e (ih (hb ▸ List.mem_cons_self) hc)
            · exact List.mem_cons_of_mem e (ih (hb ▸ List.mem_cons_of_mem b ha) hc)

theorem mem_of_mem_argumentsOf {d : Directive} {cs a : List Char} {c : Char}
    (ha : a ∈ argumentsOf d cs) (hc : c ∈ a) : c ∈ cs := by
  rw [argumentsOf] at ha
  split at ha
  · exact mem_of_mem_argumentsFrom ha hc
  · exact List.mem_singleton.1 ha ▸ hc

theorem mem_of_mem_leadingQuoted? {cs spec : List Char} {c : Char}
    (h : leadingQuoted? cs = some spec) (hc : c ∈ spec) : c ∈ cs := by
  cases cs with
  | nil => cases h
  | cons q cs =>
      rw [leadingQuoted?] at h
      split at h
      · split at h
        · rw [← Option.some.inj h] at hc
          exact List.mem_cons_of_mem q ((List.takeWhile_sublist _).subset hc)
        · cases h
      · cases h

/-- A specifier is read off a quoted text in the body that it is found in. -/
theorem exists_quoted_of_mem_bodyImports {cs spec : List Char} (h : spec ∈ bodyImports cs) :
    ∃ a : List Char, a ⊆ cs ∧ leadingQuoted? a = some spec := by
  rw [bodyImports] at h
  split at h
  · next d rest hd =>
      split at h
      · have hspec := (List.mem_filter.1 h).1
        obtain ⟨a, ha, hquoted⟩ := List.mem_filterMap.1 hspec
        refine ⟨Text.trim a, fun c hc => ?_, hquoted⟩
        have harg := Text.mem_of_mem_trimWhile hc
        have hrest : c ∈ d.word ++ rest := List.mem_append_right _ (mem_of_mem_argumentsOf ha harg)
        rw [← directive?_eq_some_iff.1 hd] at hrest
        exact Text.mem_of_mem_trimWhile hrest
      · cases h
  · cases h

/-- A specifier is a part of the body that it is found in. -/
theorem mem_of_mem_bodyImports {cs spec : List Char} {c : Char} (h : spec ∈ bodyImports cs)
    (hc : c ∈ spec) : c ∈ cs := by
  obtain ⟨a, ha, hquoted⟩ := exists_quoted_of_mem_bodyImports h
  exact ha (mem_of_mem_leadingQuoted? hquoted hc)

/-- Without a quote nothing is imported. -/
theorem bodyImports_of_no_quote {cs : List Char} (h : ∀ c ∈ cs, isQuote c = false) :
    bodyImports cs = [] := by
  refine List.eq_nil_iff_forall_not_mem.2 fun spec hspec => ?_
  obtain ⟨a, ha, hquoted⟩ := exists_quoted_of_mem_bodyImports hspec
  cases a with
  | nil => cases hquoted
  | cons q a =>
      rw [leadingQuoted?, h q (ha (by simp)), if_neg Bool.false_ne_true] at hquoted
      cases hquoted

/-! ## The start of a body -/

theorem argumentsFrom_ne_nil (s : ArgumentState) (cs : List Char) : argumentsFrom s cs ≠ [] := by
  cases cs with
  | nil => simp [argumentsFrom]
  | cons c cs =>
      rw [argumentsFrom]
      split
      · simp
      · split <;> simp

/-- More text at the end adds to the last argument, and may add more arguments. -/
theorem argumentsFrom_isPrefix (s : ArgumentState) (cs more : List Char) : ∃ args a b rest,
    argumentsFrom s cs = args ++ [a] ∧ argumentsFrom s (cs ++ more) = args ++ b :: rest ∧
      a <+: b := by
  induction cs generalizing s with
  | nil =>
      cases h : argumentsFrom s more with
      | nil => exact absurd h (argumentsFrom_ne_nil s more)
      | cons b rest => exact ⟨[], [], b, rest, rfl, h, List.nil_prefix⟩
  | cons c cs ih =>
      obtain ⟨args, a, b, rest, hshort, hlong, hab⟩ := ih (s.next c)
      rw [List.cons_append, argumentsFrom, argumentsFrom, hshort, hlong]
      by_cases hcuts : s.cuts c = true
      · rw [if_pos hcuts, if_pos hcuts]
        exact ⟨[] :: args, a, b, rest, rfl, rfl, hab⟩
      · rw [if_neg hcuts, if_neg hcuts]
        cases args with
        | nil => exact ⟨[], c :: a, c :: b, rest, rfl, rfl, (List.prefix_cons_inj c).2 hab⟩
        | cons e args => exact ⟨(c :: e) :: args, a, b, rest, rfl, rfl, hab⟩

theorem argumentsOf_isPrefix (d : Directive) (cs more : List Char) : ∃ args a b rest,
    argumentsOf d cs = args ++ [a] ∧ argumentsOf d (cs ++ more) = args ++ b :: rest ∧
      a <+: b := by
  unfold argumentsOf
  split
  · exact argumentsFrom_isPrefix .start cs more
  · exact ⟨[], cs, cs ++ more, [], rfl, rfl, List.prefix_append _ _⟩

/-- What is quoted at the start of a text stays so. -/
theorem leadingQuoted?_append {cs spec : List Char} (h : leadingQuoted? cs = some spec)
    (more : List Char) : leadingQuoted? (cs ++ more) = some spec := by
  cases cs with
  | nil => cases h
  | cons q cs =>
      rw [leadingQuoted?] at h
      split at h
      · next hq =>
          split at h
          · next hmem =>
              have hne : (cs.takeWhile (· != q)).length ≠ cs.length := by
                intro hlen
                have hself := (List.takeWhile_prefix (· != q)).eq_of_length hlen
                have hq := List.takeWhile_eq_self_iff.1 hself q hmem
                simp at hq
              calc leadingQuoted? (q :: (cs ++ more))
                  = some ((cs ++ more).takeWhile (· != q)) := by
                    rw [leadingQuoted?, if_pos hq, if_pos (List.mem_append_left more hmem)]
                _ = some (cs.takeWhile (· != q)) := by rw [List.takeWhile_append, if_neg hne]
                _ = some spec := h
          · cases h
      · cases h

theorem leadingQuoted?_trim_isPrefix {a b spec : List Char} (hab : a <+: b)
    (h : leadingQuoted? (Text.trim a) = some spec) : leadingQuoted? (Text.trim b) = some spec := by
  obtain ⟨more, hmore⟩ := Text.trimWhile_isPrefix (p := Text.isBlank) hab
  rw [Text.trim, ← hmore]
  exact leadingQuoted?_append h more

theorem directiveImports_isPrefix (d : Directive) (cs more : List Char) :
    directiveImports d cs <+: directiveImports d (cs ++ more) := by
  obtain ⟨args, a, b, rest, hshort, hlong, hab⟩ := argumentsOf_isPrefix d cs more
  unfold directiveImports
  refine List.IsPrefix.filter _ ?_
  rw [hshort, hlong, List.filterMap_append, List.filterMap_append]
  refine (List.prefix_append_right_inj _).2 ?_
  cases ha : leadingQuoted? (Text.trim a) with
  | none => simp [ha]
  | some spec => simp [ha, leadingQuoted?_trim_isPrefix hab ha]

/-- **The start of a body imports the first of what the body imports.** -/
theorem bodyImports_isPrefix {as bs : List Char} (h : as <+: bs) :
    bodyImports as <+: bodyImports bs := by
  cases hd : directive? (Text.trim as) with
  | none =>
      rw [bodyImports, hd]
      exact List.nil_prefix
  | some found =>
      obtain ⟨d, rest⟩ := found
      obtain ⟨more, hmore⟩ := Text.trimWhile_isPrefix (p := Text.isBlank) h
      have htrim : Text.trim as ++ more = Text.trim bs := hmore
      have hlong : directive? (Text.trim bs) = some (d, rest ++ more) := by
        rw [directive?_eq_some_iff, ← htrim, directive?_eq_some_iff.1 hd, List.append_assoc]
      cases rest with
      | nil =>
          rw [bodyImports, hd]
          exact List.nil_prefix
      | cons c rest =>
          have hstarts : startsArguments (c :: rest ++ more) = startsArguments (c :: rest) := rfl
          rw [bodyImports, bodyImports, hd, hlong]
          simp only [hstarts]
          split
          · exact directiveImports_isPrefix d (c :: rest) more
          · exact List.prefix_rfl

end Stylesheet.Scan
