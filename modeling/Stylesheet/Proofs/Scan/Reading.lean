import Mathlib.Data.List.Basic
import Stylesheet.Proofs.Text.Pieces
import Stylesheet.Scan.Imports

set_option autoImplicit false

/-! # How the scanner reads on

The scanner's passes over a stylesheet are proved from the front. A text *passes* if it holds no
comment and leaves the reader of comments where it was (`CommentState.Passes`); `reads` is what
the statements of a text without comments import; and a text is *inert* if it can be left out in
front of any other (`Inert`). What a reader of arguments finds in a quoted text is at the end.
-/

namespace Stylesheet.Scan

theorem any_eq_false_iff {p : Char → Bool} {cs : List Char} :
    cs.any p = false ↔ ∀ c ∈ cs, p c = false := by
  simp only [List.any_eq_false, Bool.not_eq_true]

/-! ## Comments -/

/-- A text on one line holds no line ends. -/
theorem filter_lineEnd_eq_nil {cs : List Char} (h : '\n' ∉ cs) : cs.filter (· == '\n') = [] :=
  List.filter_eq_nil_iff.2 fun _ he heq => h (beq_iff_eq.1 heq ▸ he)

namespace CommentState

/-- A text that is let through outside strings and comments, and leaves the reader there. -/
def Passes (cs : List Char) : Prop := plain.output cs = cs ∧ plain.after cs = plain

theorem Passes.append {as bs : List Char} (ha : Passes as) (hb : Passes bs) :
    Passes (as ++ bs) := by
  constructor
  · rw [output_append, ha.1, ha.2, hb.1]
  · rw [after_append, ha.2, hb.2]

/-- Outside strings only a quote and a slash matter. -/
theorem passes_of_plain {cs : List Char} (h : ∀ c ∈ cs, isQuote c = false ∧ c ≠ '/') :
    Passes cs := by
  induction cs with
  | nil => exact ⟨rfl, rfl⟩
  | cons c cs ih =>
      obtain ⟨hquote, hslash⟩ := h c (by simp)
      have hnext : plain.next c = plain := by simp [next, hslash, afterPlain, hquote]
      obtain ⟨hout, hafter⟩ := ih fun d hd => h d (List.mem_cons_of_mem c hd)
      constructor
      · rw [output, hnext, hout]
        simp [emits, hslash]
      · rw [after_cons, hnext, hafter]

/-- The inside of a string is let through. -/
theorem output_quoted {q : Char} {cs : List Char} (hquote : q ∉ cs) (hescape : '\\' ∉ cs)
    (hline : '\n' ∉ cs) : (quoted q).output cs = cs ∧ (quoted q).after cs = quoted q := by
  induction cs with
  | nil => exact ⟨rfl, rfl⟩
  | cons c cs ih =>
      simp only [List.mem_cons, not_or] at hquote hescape hline
      have hnext : (quoted q).next c = quoted q := by
        simp [next, Ne.symm hquote.1, Ne.symm hescape.1, Ne.symm hline.1]
      obtain ⟨hout, hafter⟩ := ih hquote.2 hescape.2 hline.2
      constructor
      · rw [output, hnext, hout]
        rfl
      · rw [after_cons, hnext, hafter]

/-- A string on one line is let through. -/
theorem passes_quoted {q : Char} {cs : List Char} (hq : isQuote q = true) (hquote : q ∉ cs)
    (hescape : '\\' ∉ cs) (hline : '\n' ∉ cs) : Passes (q :: (cs ++ [q])) := by
  obtain ⟨hout, hafter⟩ := output_quoted hquote hescape hline
  have hslash : q ≠ '/' := by
    rintro rfl
    exact absurd hq (by decide)
  have hnext : plain.next q = quoted q := by simp [next, hslash, afterPlain, hq]
  have hend : q ≠ '\\' := by
    rintro rfl
    exact absurd hq (by decide)
  constructor
  · calc plain.output (q :: (cs ++ [q]))
        = plain.emits q ++ (quoted q).output (cs ++ [q]) := by rw [output, hnext]
      _ = plain.emits q ++ (cs ++ (quoted q).output [q]) := by rw [output_append, hout, hafter]
      _ = q :: (cs ++ [q]) := by simp [emits, hslash, output]
  · rw [after_cons, hnext, after_append, hafter]
    simp [next, hend]

end CommentState

/-! ## Statements -/

variable (d : Dialect)

/-- What the statements of a text without comments import. -/
def reads (cs : List Char) : List (List Char) := (statements d cs).flatMap statementImports

theorem reads_append_of_ends {c : Char} (h : endsStatement d c = true) (as bs : List Char) :
    reads d (as ++ c :: bs) = reads d as ++ reads d bs := by
  rw [reads, statements, Text.pieces_append_of_sep h, List.flatMap_append]
  rfl

/-- A text in which no statement ends is one statement. -/
theorem reads_of_no_ends {cs : List Char} (h : ∀ c ∈ cs, endsStatement d c = false) :
    reads d cs = statementImports cs := by
  rw [reads, statements, Text.pieces_of_forall h, List.flatMap_singleton]

/-- Without the mark of a directive nothing is imported. -/
theorem statementImports_of_no_at {cs : List Char} (h : '@' ∉ cs) : statementImports cs = [] := by
  have hbody : '@' ∉ statementBody cs :=
    fun hc => h (Text.mem_of_mem_afterLast (Text.mem_of_mem_trimWhile hc))
  have hnone : directive? (statementBody cs) = none := by
    refine List.findSome?_eq_none_iff.2 fun w _ => ?_
    rw [Option.map_eq_none_iff]
    cases hw : Text.after? w.word (statementBody cs) with
    | none => rfl
    | some rest =>
        have he := Text.after?_eq_some_iff.1 hw
        have hat : '@' ∈ w.word := by cases w <;> decide +kernel
        exact absurd (he ▸ List.mem_append_left rest hat) hbody
  rw [statementImports, hnone]

theorem reads_of_no_at {cs : List Char} (h : '@' ∉ cs) : reads d cs = [] := by
  refine List.flatMap_eq_nil_iff.2 fun p hp => ?_
  exact statementImports_of_no_at fun hat => h (Text.mem_of_mem_pieces hp hat)

@[simp] theorem reads_nil : reads d [] = [] := reads_of_no_at d (by simp)

/-- A text that may be left out in front of any other, since the statements behind it are read as if
it were not there. -/
def Inert (cs : List Char) : Prop := ∀ rest, reads d (cs ++ rest) = reads d rest

variable {d}

theorem Inert.append {as bs : List Char} (ha : Inert d as) (hb : Inert d bs) :
    Inert d (as ++ bs) := by
  intro rest
  rw [List.append_assoc, ha, hb]

/-- What ends a statement that imports nothing is inert. -/
theorem inert_of_ends {cs : List Char} {c : Char} (hc : endsStatement d c = true)
    (h : '@' ∉ cs) : Inert d (cs ++ [c]) := by
  intro rest
  calc reads d (cs ++ [c] ++ rest)
      = reads d cs ++ reads d rest := by
        rw [List.append_assoc, List.singleton_append, reads_append_of_ends d hc]
    _ = reads d rest := by rw [reads_of_no_at d h, List.nil_append]

/-- The start of a statement with nothing but blanks after its last brace is inert. -/
theorem inert_of_afterLast {cs : List Char} (hends : ∀ c ∈ cs, endsStatement d c = false)
    (hblank : ∀ c ∈ Text.afterLast isBrace cs, Text.isBlank c = true) : Inert d cs := by
  intro rest
  have hbody : ∀ p, statementBody (cs ++ p) = statementBody p := by
    intro p
    rw [statementBody, Text.afterLast_append]
    split
    · next hp =>
        rw [Text.trim, Text.trimWhile_append hblank, statementBody, Text.afterLast_of_forall hp,
          Text.trim]
    · rfl
  cases hp : Text.pieces (endsStatement d) rest with
  | nil => exact absurd hp (Text.pieces_ne_nil _ _)
  | cons p ps =>
      have hsame : statementImports (cs ++ p) = statementImports p := by
        rw [statementImports, hbody, statementImports]
      calc reads d (cs ++ rest)
          = statementImports (cs ++ p) ++ ps.flatMap statementImports := by
            rw [reads, statements, Text.pieces_append_of_forall hends hp, List.flatMap_cons]
        _ = statementImports p ++ ps.flatMap statementImports := by rw [hsame]
        _ = reads d rest := by rw [reads, statements, hp, List.flatMap_cons]

theorem inert_blank {cs : List Char} (h : ∀ c ∈ cs, Text.isBlank c = true) : Inert d cs := by
  induction cs with
  | nil => exact fun rest => rfl
  | cons c cs ih =>
      have hc : Inert d [c] := by
        by_cases hends : endsStatement d c = true
        · exact @inert_of_ends d [] c hends (by simp)
        · rw [Bool.not_eq_true] at hends
          refine inert_of_afterLast (by simpa using hends) fun b hb => ?_
          have hb := Text.mem_of_mem_afterLast hb
          exact h b (by simpa using Or.inl (List.mem_singleton.1 hb))
      exact hc.append (ih fun b hb => h b (List.mem_cons_of_mem c hb))

theorem endsStatement_of_isBrace {b : Char} (hb : isBrace b = true) : endsStatement d b = false := by
  simp only [isBrace, Bool.or_eq_true, beq_iff_eq] at hb
  rcases hb with rfl | rfl <;> cases d <;> rfl

/-- The start of a statement that ends with a brace is inert. -/
theorem inert_of_brace {cs : List Char} {b : Char} (hends : ∀ c ∈ cs, endsStatement d c = false)
    (hb : isBrace b = true) : Inert d (cs ++ [b]) := by
  have hbrace : ¬ ∀ c ∈ [b], isBrace c = false := by simp [hb]
  refine inert_of_afterLast (fun c hc => ?_) ?_
  · rcases List.mem_append.1 hc with hc | hc
    · exact hends c hc
    · exact List.mem_singleton.1 hc ▸ endsStatement_of_isBrace hb
  · rw [Text.afterLast_append, if_neg hbrace, Text.afterLast, List.reverse_singleton,
      List.takeWhile_cons_of_neg (by simp [hb])]
    exact fun c hc => absurd hc List.not_mem_nil

/-- What stands before a brace is read on its own. `start` is the part of it that is known not to
end a statement. -/
theorem reads_append_of_brace {b : Char} (hb : isBrace b = true) {start : List Char}
    (hends : ∀ c ∈ start, endsStatement d c = false) (as bs : List Char) :
    reads d (start ++ as ++ b :: bs) = reads d (start ++ as ++ [b]) ++ reads d bs := by
  induction as generalizing start with
  | nil =>
      have hinert := inert_of_brace hends hb
      have hnil := hinert []
      have hrest := hinert bs
      rw [List.append_nil, reads_nil] at hnil
      rw [List.append_assoc, List.singleton_append] at hrest
      rw [List.append_nil, hnil, hrest, List.nil_append]
  | cons c as ih =>
      by_cases hc : endsStatement d c = true
      · have hrest := @ih [] (by simp)
        rw [List.nil_append] at hrest
        calc reads d (start ++ c :: as ++ b :: bs)
            = reads d start ++ reads d (as ++ b :: bs) := by
              rw [List.append_assoc, List.cons_append, reads_append_of_ends d hc]
          _ = reads d start ++ reads d (as ++ [b]) ++ reads d bs := by
              rw [hrest, List.append_assoc]
          _ = reads d (start ++ c :: as ++ [b]) ++ reads d bs := by
              rw [List.append_assoc start, List.cons_append, reads_append_of_ends d hc]
      · rw [Bool.not_eq_true] at hc
        have hstart : ∀ e ∈ start ++ [c], endsStatement d e = false := by
          intro e he
          rcases List.mem_append.1 he with he | he
          · exact hends e he
          · exact List.mem_singleton.1 he ▸ hc
        have heq : start ++ c :: as = start ++ [c] ++ as := by simp
        rw [heq]
        exact ih hstart

/-- A text without the mark of a directive is inert if it ends at the end of a statement or a
brace. `start` is the part of it that is known not to end a statement. -/
theorem inert_of_no_at {start cs : List Char} (hends : ∀ c ∈ start, endsStatement d c = false)
    (hat : '@' ∉ start ++ cs)
    (hlast : (start ++ cs).getLast? = some ';' ∨ (start ++ cs).getLast? = some '\x7d') :
    Inert d (start ++ cs) := by
  induction cs generalizing start with
  | nil =>
      rw [List.append_nil] at hlast ⊢
      rcases hlast with hlast | hlast
      · have hmem := List.mem_of_getLast? hlast
        exact absurd (hends _ hmem) (by simp [endsStatement])
      · obtain ⟨before, rfl⟩ := List.getLast?_eq_some_iff.1 hlast
        exact inert_of_brace (fun c hc => hends c (List.mem_append_left _ hc)) rfl
  | cons c cs ih =>
      have heq : start ++ c :: cs = start ++ [c] ++ cs := by simp
      rw [heq] at hat hlast ⊢
      by_cases hc : endsStatement d c = true
      · -- a statement ends here, and what follows starts afresh
        have hfirst : Inert d (start ++ [c]) :=
          inert_of_ends hc fun h => hat (by simp [h])
        have hrest : Inert d cs := by
          by_cases hcs : cs = []
          · rw [hcs]
            exact fun rest => rfl
          · rw [List.getLast?_append_of_ne_nil _ hcs] at hlast
            exact @ih [] (by simp) (fun h => hat (List.mem_append_right _ h)) hlast
        exact hfirst.append hrest
      · -- the statement goes on
        rw [Bool.not_eq_true] at hc
        refine ih (fun b hb => ?_) hat hlast
        rcases List.mem_append.1 hb with hb | hb
        · exact hends b hb
        · exact List.mem_singleton.1 hb ▸ hc

/-! ## Quoted texts -/

/-- A character at which arguments are not cut goes to the first of them. -/
theorem argumentsFrom_of_not_cuts {s : ArgumentState} {c : Char} {cs a : List Char}
    {as : List (List Char)} (hcuts : s.cuts c = false) (h : argumentsFrom (s.next c) cs = a :: as) :
    argumentsFrom s (c :: cs) = (c :: a) :: as := by
  rw [argumentsFrom, hcuts, if_neg Bool.false_ne_true, h]

/-- Arguments are not cut inside a string. -/
theorem argumentsFrom_quoted {q : Char} {spec rest a : List Char} {as : List (List Char)}
    (h : q ∉ spec) (hrest : argumentsFrom .start rest = a :: as) :
    argumentsFrom ⟨some q, 0⟩ (spec ++ q :: rest) = (spec ++ q :: a) :: as := by
  induction spec with
  | nil =>
      have hnext : (⟨some q, 0⟩ : ArgumentState).next q = .start := by
        simp [ArgumentState.next, ArgumentState.start]
      exact argumentsFrom_of_not_cuts rfl (by rwa [hnext])
  | cons c spec ih =>
      simp only [List.mem_cons, not_or] at h
      have hnext : (⟨some q, 0⟩ : ArgumentState).next c = ⟨some q, 0⟩ := by
        simp [ArgumentState.next, Ne.symm h.1]
      rw [List.cons_append, List.cons_append]
      exact argumentsFrom_of_not_cuts rfl (by rw [hnext, ih h.2])

theorem leadingQuoted?_quoted {q : Char} {spec : List Char} (hq : isQuote q = true)
    (h : q ∉ spec) : leadingQuoted? (q :: (spec ++ [q])) = some spec := by
  have htake : (spec ++ [q]).takeWhile (· != q) = spec := by
    rw [List.takeWhile_append_of_pos]
    · simp
    · intro c hc
      exact bne_iff_ne.2 fun he => h (he ▸ hc)
  rw [leadingQuoted?, if_pos hq, if_pos (by simp), htake]

/-- A text that follows a blank, trimmed. -/
theorem trim_blank_cons {a b c : Char} (ha : Text.isBlank a = true) (hb : Text.isBlank b = false)
    (hc : Text.isBlank c = false) (cs : List Char) :
    Text.trim (a :: b :: (cs ++ [c])) = b :: (cs ++ [c]) := by
  have hblank := Text.trimWhile_append (List.forall_mem_singleton.2 ha) (b :: (cs ++ [c]))
  rw [Text.trimWhile_cons_concat hb hc] at hblank
  exact hblank

end Stylesheet.Scan
