import Mathlib.Data.List.Induction
import Mathlib.Data.List.Infix
import Stylesheet.Proofs.Scan.Bodies
import Stylesheet.Proofs.Scan.Neutral

set_option autoImplicit false

/-! # Unquoted addresses

An address can be written without quotes, as in `url(//host/a.png)`. The scanner does not know such
addresses. Semicolons, braces and directives in one do no harm, since without a quote nothing is
imported (`importsOf_of_no_quote`), but the reader of comments takes `//` and `/*` in it for the
start of a comment. So an address leaves the scan of what follows it alone exactly if all comments
that seem to open in it are closed in it, and otherwise what follows it is not scanned
(`scanImports_address_iff`).
-/

namespace Stylesheet.Scan

/-! ## Texts without quotes -/

namespace CommentState

theorem eq_of_mem_emits {s : CommentState} {c e : Char} (h : e ∈ s.emits c) : e = c ∨ e = '/' := by
  cases s <;> grind [emits]

/-- Nothing is let through that does not stand in the text, but for a slash that was held back. -/
theorem mem_of_mem_output {s : CommentState} {cs : List Char} {e : Char} (h : e ∈ s.output cs) :
    e ∈ cs ∨ e = '/' := by
  induction cs generalizing s with
  | nil => cases h
  | cons c cs ih =>
      rcases List.mem_append.1 h with h | h
      · exact (eq_of_mem_emits h).imp (fun he => List.mem_cons.2 (.inl he)) id
      · exact (ih h).imp (List.mem_cons_of_mem c) id

theorem isQuote_of_mem_output {s : CommentState} {cs : List Char}
    (h : ∀ c ∈ cs, isQuote c = false) : ∀ e ∈ s.output cs, isQuote e = false := by
  intro e he
  rcases mem_of_mem_output he with hmem | rfl
  · exact h e hmem
  · rfl

end CommentState

open CommentState

variable {d : Dialect}

theorem reads_of_no_quote {cs : List Char} (h : ∀ c ∈ cs, isQuote c = false) : reads d cs = [] := by
  refine List.flatMap_eq_nil_iff.2 fun p hp => ?_
  rw [statementImports_eq]
  exact bodyImports_of_no_quote fun c hc =>
    h c (Text.mem_of_mem_pieces hp (Text.mem_of_mem_afterLast hc))

/-- A stylesheet without quotes imports nothing. -/
theorem importsOf_of_no_quote {cs : List Char} (h : ∀ c ∈ cs, isQuote c = false) :
    importsOf d cs = [] := by
  refine reads_of_no_quote fun c hc => ?_
  rcases List.mem_append.1 hc with hc | hc
  · exact isQuote_of_mem_output h c hc
  · cases hs : plain.after cs <;> simp_all [atEnd, isQuote]

/-! ## Comments -/

namespace CommentState

def inComment : CommentState → Bool
  | lineComment => true
  | blockComment _ => true
  | _ => false

/-- Without a quote no string is entered. -/
theorem next_of_no_quote {s : CommentState} (hs : s.isOutside = true ∨ s.inComment = true)
    {c : Char} (hc : isQuote c = false) :
    (s.next c).isOutside = true ∨ (s.next c).inComment = true := by
  cases s <;> grind [next, afterPlain, isOutside, inComment]

theorem after_of_no_quote {cs : List Char} (h : ∀ c ∈ cs, isQuote c = false) :
    (plain.after cs).isOutside = true ∨ (plain.after cs).inComment = true := by
  induction cs using List.reverseRecOn with
  | nil => exact .inl rfl
  | append_singleton cs c ih =>
      rw [after_append]
      exact next_of_no_quote (ih fun e he => h e (by simp [he])) (h c (by simp))

/-- A comment goes on until its line ends or it is closed. -/
theorem output_inComment {s : CommentState} (hs : s.inComment = true) {cs : List Char}
    (hline : '\n' ∉ cs) (hclose : ¬ ['*', '/'] <:+: cs) (hfirst : cs.head? ≠ some '/') :
    s.output cs = [] ∧ (s.after cs).inComment = true := by
  cases s with
  | lineComment =>
      obtain ⟨hout, hafter⟩ := output_lineComment_open hline
      exact ⟨hout, by rw [hafter]; rfl⟩
  | blockComment starred =>
      obtain ⟨hout, starred', hafter⟩ := @output_blockComment_open starred cs hclose fun _ => hfirst
      exact ⟨hout.trans (filter_lineEnd_eq_nil hline), by rw [hafter]; rfl⟩
  | _ => cases hs

/-- Where no block comment opens, a line comment is all that a text without quotes can end in. -/
theorem after_of_no_blockComment {cs : List Char} (hquote : ∀ c ∈ cs, isQuote c = false)
    (hline : '\n' ∉ cs) (hblock : ¬ ['/', '*'] <:+: cs) :
    plain.after cs = if ['/', '/'] <:+: cs then lineComment
      else if cs.getLast? = some '/' then slash else plain := by
  induction cs using List.reverseRecOn with
  | nil => rfl
  | append_singleton cs c ih =>
      have hc := hquote c (by simp)
      simp only [Text.infix_pair_concat_iff, not_or, List.mem_append, List.mem_singleton]
        at hline hblock
      have hbefore := ih (fun e he => hquote e (by simp [he])) hline.1 hblock.1
      rw [after_append, hbefore, after_cons, after_nil, List.getLast?_concat]
      simp only [Text.infix_pair_concat_iff, Option.some.injEq]
      by_cases hpair : ['/', '/'] <:+: cs
      · simp [hpair, next, Ne.symm hline.2]
      · by_cases hlast : cs.getLast? = some '/'
        · have hstar : c ≠ '*' := fun e => hblock.2 ⟨hlast, e⟩
          by_cases hslash : c = '/' <;> simp [hpair, hlast, hslash, hstar, next, afterPlain, hc]
        · by_cases hslash : c = '/' <;> simp [hpair, hlast, hslash, next, afterPlain, hc]

end CommentState

/-! ## Addresses -/

def addressMark : List Char := "p:url(".toList

theorem isQuote_of_mem_addressMark : ∀ c ∈ addressMark, isQuote c = false := by
  have hall : addressMark.all (!isQuote ·) = true := by rfl
  intro c hc
  simpa using List.all_eq_true.1 hall c hc

theorem after_addressMark : plain.after addressMark = plain := by rfl

variable {us : List Char}

/-- A declaration is read on its own if no comment stays open in its address. -/
theorem importsOf_address (hquote : ∀ c ∈ us, isQuote c = false)
    (h : (plain.after us).isOutside = true) (bs : List Char) :
    importsOf d (addressMark ++ us ++ ')' :: ';' :: bs) = importsOf d bs := by
  have hout : (plain.after (addressMark ++ us ++ [')'])).isOutside = true := by
    rw [after_append, after_append, after_addressMark]
    cases hs : plain.after us with
    | plain => rfl
    | slash => rfl
    | _ =>
        rw [hs] at h
        cases h
  have hnone : importsOf d (addressMark ++ us ++ [')']) = [] := by
    refine importsOf_of_no_quote fun c hc => ?_
    simp only [List.mem_append, List.mem_singleton] at hc
    rcases hc with (hc | hc) | rfl
    · exact isQuote_of_mem_addressMark c hc
    · exact hquote c hc
    · rfl
  have hends : endsStatement d ';' = true := by simp [endsStatement]
  have hcut := importsOf_append_of_ends hends hout bs
  rwa [hnone, List.nil_append, List.append_assoc, List.singleton_append] at hcut

/-- Where a comment stays open in the address, nothing behind it is read until the comment ends. -/
theorem importsOf_address_open (hquote : ∀ c ∈ us, isQuote c = false)
    (h : (plain.after us).isOutside = false) {bs : List Char} (hline : '\n' ∉ bs)
    (hclose : ¬ ['*', '/'] <:+: bs) :
    importsOf d (addressMark ++ us ++ ')' :: ';' :: bs) = [] := by
  have hcomment : (plain.after us).inComment = true :=
    (after_of_no_quote hquote).resolve_left (Bool.eq_false_iff.1 h)
  have hends : ¬ ['*', '/'] <:+: ')' :: ';' :: bs := by
    simpa [List.infix_cons_iff] using hclose
  have hrest : '\n' ∉ ')' :: ';' :: bs := by simpa using hline
  obtain ⟨hout, hafter⟩ := output_inComment hcomment hrest hends (by simp)
  -- what is left is the declaration up to where the comment opens
  have hstrip : strip plain (addressMark ++ us ++ ')' :: ';' :: bs)
      = plain.output (addressMark ++ us) := by
    calc strip plain (addressMark ++ us ++ ')' :: ';' :: bs)
        = plain.output (addressMark ++ us) ++ strip (plain.after us) (')' :: ';' :: bs) := by
          rw [strip_append, after_append, after_addressMark]
      _ = plain.output (addressMark ++ us) ++ [] := by
          rw [strip, hout]
          cases hs : (plain.after us).after (')' :: ';' :: bs) <;> simp_all [inComment, atEnd]
      _ = plain.output (addressMark ++ us) := List.append_nil _
  rw [importsOf, stripComments, hstrip]
  refine reads_of_no_quote (isQuote_of_mem_output fun c hc => ?_)
  exact (List.mem_append.1 hc).elim (isQuote_of_mem_addressMark c) (hquote c)

/-- **An unquoted address leaves the scan of what follows it alone** exactly if every comment that
seems to open in it is closed in it. For an address on one line without `/*` that is to say that it
holds no `//`. Behind any other address nothing is found as long as that comment goes on. -/
theorem scanImports_address_iff (d : Dialect) {a u : String} (ha : Neutral a)
    (hu : ∀ c ∈ u.toList, isQuote c = false) :
    ((∀ b : String,
        scanImports (a ++ ";p:url(" ++ u ++ ");" ++ b) d = scanImports a d ++ scanImports b d) ↔
      Neutral u) ∧
    ('\n' ∉ u.toList → ¬ ['/', '*'] <:+: u.toList →
      (Neutral u ↔ ¬ ['/', '/'] <:+: u.toList)) ∧
    (¬ Neutral u → ∀ b : String, '\n' ∉ b.toList → ¬ ['*', '/'] <:+: b.toList →
      scanImports (a ++ ";p:url(" ++ u ++ ");" ++ b) d = scanImports a d) := by
  have hread : ∀ b : String, scanImports (a ++ ";p:url(" ++ u ++ ");" ++ b) d = scanImports a d ++
      (importsOf d (addressMark ++ u.toList ++ ')' :: ';' :: b.toList)).map String.ofList := by
    intro b
    have htext : (a ++ ";p:url(" ++ u ++ ");" ++ b).toList
        = a.toList ++ ';' :: (addressMark ++ u.toList ++ ')' :: ';' :: b.toList) := by
      have hopen : ";p:url(".toList = ';' :: addressMark := rfl
      have hclose : ");".toList = [')', ';'] := rfl
      simp only [String.toList_append, hopen, hclose, List.append_assoc, List.cons_append,
        List.nil_append]
    have hends : endsStatement d ';' = true := by simp [endsStatement]
    rw [scanImports, htext, importsOf_append_of_ends hends ha, List.map_append]
    rfl
  have hopen : ¬ Neutral u → ∀ b : String, '\n' ∉ b.toList → ¬ ['*', '/'] <:+: b.toList →
      scanImports (a ++ ";p:url(" ++ u ++ ");" ++ b) d = scanImports a d := by
    intro hneutral b hline hclose
    rw [hread, importsOf_address_open hu (Bool.eq_false_iff.2 hneutral) hline hclose, List.map_nil,
      List.append_nil]
  refine ⟨⟨fun h => ?_, fun h b => ?_⟩, fun hline hblock => ?_, hopen⟩
  · -- an import on the same line would be missing
    by_contra hneutral
    have hfound : scanImports "@import 'x';" d = ["x"] := by cases d <;> decide +kernel
    have hmissing := hopen hneutral "@import 'x';" (by decide +kernel) (by decide +kernel)
    rw [h, hfound] at hmissing
    exact absurd (List.append_right_eq_self.1 hmissing) (List.cons_ne_nil _ _)
  · rw [hread, importsOf_address hu h]
    rfl
  · rw [Neutral, after_of_no_blockComment hu hline hblock]
    by_cases hpair : ['/', '/'] <:+: u.toList
    · simp [hpair, isOutside]
    · by_cases hlast : u.toList.getLast? = some '/' <;> simp [hpair, hlast, isOutside]

/-- Semicolons, braces and a directive in an address that closes its comment, and a slash at the end
of what stands in front. -/
theorem scanImports_address_iff_data :
    (Neutral "@use 'a'; b: c/" ∧
      ∀ c ∈ "data:image/png;base64,/*;*/iVBO\x7b\x7d;@import/".toList, isQuote c = false) ∧
      scanImports ("@use 'a'; b: c/" ++ ";p:url(" ++ "data:image/png;base64,/*;*/iVBO\x7b\x7d;@import/"
        ++ ");" ++ "@use 'd'") .scss = ["a", "d"] := by
  have hneutral : Neutral "@use 'a'; b: c/" := by decide +kernel
  have hall :
      "data:image/png;base64,/*;*/iVBO\x7b\x7d;@import/".toList.all (!isQuote ·) = true := by
    decide +kernel
  have hquote : ∀ c ∈ "data:image/png;base64,/*;*/iVBO\x7b\x7d;@import/".toList,
      isQuote c = false := by
    intro c hc
    simpa using List.all_eq_true.1 hall c hc
  have hiff := (scanImports_address_iff .scss hneutral hquote).1
  refine ⟨⟨hneutral, hquote⟩, ?_⟩
  rw [hiff.2 (by decide +kernel)]
  decide +kernel

/-- What follows an absolute address is not found, on the same line and on the next. -/
theorem scanImports_address_absolute :
    scanImports ("" ++ ";p:url(" ++ "http://host/a.png" ++ ");" ++ "@import 'x';") .scss = [] ∧
      scanImports ("" ++ ";p:url(" ++ "http://host/a.png" ++ ");" ++ "\n@import 'x';") .scss = [] ∧
      scanImports "" .scss ++ scanImports "@import 'x';" .scss = ["x"] ∧
      scanImports "" .scss ++ scanImports "\n@import 'x';" .scss = ["x"] := by
  decide +kernel

end Stylesheet.Scan
