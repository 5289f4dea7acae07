import Mathlib.Data.List.Infix
import Stylesheet.Proofs.Scan.Neutral

set_option autoImplicit false

/-! # Strings and comments as wholes

A stylesheet falls into strings, comments and characters outside of both (`spans`). The first
characters of a span tell what it is, and it is taken as a whole up to where it ends (`stringUpTo`,
`upTo`). The reader of comments, which goes character by character, keeps of every span what is not
comment (`stripComments_eq`). What it leaves falls into the same strings again and holds no comment
(`spans_stripComments`), so leaving comments out is a projection (`stripComments_projection`).
-/

namespace Stylesheet.Scan

open CommentState

/-! ## Spans -/

/-- A part of a stylesheet that is read as a whole. -/
inductive Span
  | char (c : Char)
  | string (text : List Char)
  | comment (text : List Char)
deriving DecidableEq, Repr

namespace Span

def text : Span → List Char
  | char c => [c]
  | string cs => cs
  | comment cs => cs

/-- What stays of a span without comments: of a comment, its line ends. -/
def kept : Span → List Char
  | comment cs => cs.filter (· == '\n')
  | s => s.text

/-- The spans that stand in the place of a span without comments. A comment leaves its line ends as
plain characters. -/
def settled : Span → List Span
  | comment cs => (cs.filter (· == '\n')).map char
  | s => [s]

def isString : Span → Bool
  | string _ => true
  | _ => false

end Span

/-- What a text has of the string that `q` opened in front of it, and what follows the string. A
backslash takes the next character along; otherwise the string ends at its quote, at the end of the
line or of the text. -/
def stringUpTo (q : Char) : List Char → List Char × List Char
  | [] => ([], [])
  | c :: cs =>
    if c = '\\' then
      match cs with
      | [] => ([c], [])
      | e :: es =>
        let (inside, rest) := stringUpTo q es
        (c :: e :: inside, rest)
    else if c = q ∨ c = '\n' then ([c], cs)
    else
      let (inside, rest) := stringUpTo q cs
      (c :: inside, rest)

/-- A text up to the first place of a mark, together with the mark, and what follows it. -/
def upTo (mark cs : List Char) : List Char × List Char :=
  match Text.cutAt? mark cs with
  | some (before, rest) => (before ++ mark, rest)
  | none => (cs, [])

/-- The span that starts with a character, and what follows it. -/
def firstSpan : Char → List Char → Span × List Char
  | '/', '/' :: cs =>
    let (body, rest) := upTo ['\n'] cs
    (.comment ('/' :: '/' :: body), rest)
  | '/', '*' :: cs =>
    let (body, rest) := upTo ['*', '/'] cs
    (.comment ('/' :: '*' :: body), rest)
  | c, cs =>
    if isQuote c then
      let (inside, rest) := stringUpTo c cs
      (.string (c :: inside), rest)
    else (.char c, cs)

/-- A character opens neither a string nor a comment in front of a text. -/
def StandsAlone (c : Char) (cs : List Char) : Prop :=
  isQuote c = false ∧ (c = '/' → cs.head? ≠ some '/' ∧ cs.head? ≠ some '*')

theorem stringUpTo_append (q : Char) (cs : List Char) :
    (stringUpTo q cs).1 ++ (stringUpTo q cs).2 = cs := by
  fun_induction stringUpTo q cs <;> simp_all

theorem stringUpTo_cons {q c : Char} (hescape : c ≠ '\\') (cs : List Char) :
    stringUpTo q (c :: cs) = if c = q ∨ c = '\n' then ([c], cs)
      else (c :: (stringUpTo q cs).1, (stringUpTo q cs).2) := by
  conv_lhs => unfold stringUpTo
  rw [if_neg hescape]

theorem upTo_cases (mark : List Char) (hmark : mark ≠ []) (cs : List Char) :
    (¬ mark <:+: cs ∧ upTo mark cs = (cs, [])) ∨
      ∃ body rest, ¬ mark <:+: body ∧ cs = body ++ (mark ++ rest) ∧
        upTo mark cs = (body ++ mark, rest) := by
  unfold upTo
  cases hcut : Text.cutAt? mark cs with
  | none => exact .inl ⟨Text.cutAt?_eq_none_iff.1 hcut, rfl⟩
  | some cut =>
      obtain ⟨body, rest⟩ := cut
      obtain ⟨hcs, hbody⟩ := Text.eq_of_cutAt? hmark hcut
      exact .inr ⟨body, rest, hbody, hcs, rfl⟩

theorem upTo_append (mark : List Char) (hmark : mark ≠ []) (cs : List Char) :
    (upTo mark cs).1 ++ (upTo mark cs).2 = cs := by
  rcases upTo_cases mark hmark cs with ⟨-, h⟩ | ⟨body, rest, -, hcs, h⟩
  · rw [h, List.append_nil]
  · rw [h, hcs, List.append_assoc]

theorem ne_slash_of_isQuote {c : Char} (h : isQuote c = true) : c ≠ '/' := by
  rintro rfl
  exact absurd h (by decide)

theorem firstSpan_of_isQuote {c : Char} (hquote : isQuote c = true) (cs : List Char) :
    firstSpan c cs = (.string (c :: (stringUpTo c cs).1), (stringUpTo c cs).2) := by
  rw [firstSpan, if_pos hquote]
  · exact fun _ hc => absurd hc (ne_slash_of_isQuote hquote)
  · exact fun _ hc => absurd hc (ne_slash_of_isQuote hquote)

theorem firstSpan_of_standsAlone {c : Char} {cs : List Char} (h : StandsAlone c cs) :
    firstSpan c cs = (.char c, cs) := by
  rw [firstSpan, if_neg (Bool.eq_false_iff.1 h.1)]
  · exact fun ds hc hcs => (h.2 hc).1 (by rw [hcs]; rfl)
  · exact fun ds hc hcs => (h.2 hc).2 (by rw [hcs]; rfl)

/-- A span is a line comment, a block comment, a string or a character. -/
theorem firstSpan_cases (c : Char) (cs : List Char) :
    (∃ ds, c = '/' ∧ cs = '/' :: ds) ∨ (∃ ds, c = '/' ∧ cs = '*' :: ds) ∨
      isQuote c = true ∨ StandsAlone c cs := by
  cases hquote : isQuote c with
  | true => exact .inr (.inr (.inl rfl))
  | false =>
      by_cases hline : ∃ ds, c = '/' ∧ cs = '/' :: ds
      · exact .inl hline
      · by_cases hblock : ∃ ds, c = '/' ∧ cs = '*' :: ds
        · exact .inr (.inl hblock)
        · refine .inr (.inr (.inr ⟨hquote, fun hc => ⟨fun hhead => ?_, fun hhead => ?_⟩⟩))
          · obtain ⟨ds, hcs⟩ := List.head?_eq_some_iff.1 hhead
            exact hline ⟨ds, hc, hcs⟩
          · obtain ⟨ds, hcs⟩ := List.head?_eq_some_iff.1 hhead
            exact hblock ⟨ds, hc, hcs⟩

/-- Nothing is lost of a text when its first span is taken. -/
theorem firstSpan_append (c : Char) (cs : List Char) :
    (firstSpan c cs).1.text ++ (firstSpan c cs).2 = c :: cs := by
  rcases firstSpan_cases c cs with ⟨ds, rfl, rfl⟩ | ⟨ds, rfl, rfl⟩ | hquote | halone
  · exact congrArg ('/' :: '/' :: ·) (upTo_append _ (by simp) ds)
  · exact congrArg ('/' :: '*' :: ·) (upTo_append _ (by simp) ds)
  · rw [firstSpan_of_isQuote hquote]
    exact congrArg (c :: ·) (stringUpTo_append c cs)
  · rw [firstSpan_of_standsAlone halone]
    rfl

theorem length_firstSpan_lt (c : Char) (cs : List Char) :
    (firstSpan c cs).2.length < (c :: cs).length := by
  have htext : (firstSpan c cs).1.text ≠ [] := by
    fun_cases firstSpan c cs <;> simp [Span.text]
  have hlength := congrArg List.length (firstSpan_append c cs)
  rw [List.length_append] at hlength
  have hpos := List.length_pos_of_ne_nil htext
  omega

/-- The strings, comments and other characters of a stylesheet, in order. -/
def spans : List Char → List Span
  | [] => []
  | c :: cs => (firstSpan c cs).1 :: spans (firstSpan c cs).2
termination_by cs => cs.length
decreasing_by exact length_firstSpan_lt c cs

/-- What stands outside the strings of a stylesheet, with a blank in the place of each string. -/
def outsideStrings (cs : List Char) : List Char :=
  (spans cs).flatMap fun s => if s.isString then [' '] else s.text

/-- The opening mark of a comment stands in a text. -/
def HoldsOpening (cs : List Char) : Prop := ['/', '/'] <:+: cs ∨ ['/', '*'] <:+: cs

/-- A stylesheet is made of its spans. -/
theorem flatMap_text_spans (cs : List Char) : (spans cs).flatMap Span.text = cs := by
  induction cs using spans.induct with
  | case1 => rw [spans, List.flatMap_nil]
  | case2 c cs ih => rw [spans, List.flatMap_cons, ih, firstSpan_append]

/-! ## What is kept of a span -/

theorem strip_plain_cons {c : Char} (hslash : c ≠ '/') (cs : List Char) :
    strip plain (c :: cs) = c :: strip (afterPlain c) cs := by
  simp [strip_cons, emits, next, hslash]

/-- A character that opens nothing is kept. -/
theorem strip_of_standsAlone {c : Char} {cs : List Char} (h : StandsAlone c cs) :
    strip plain (c :: cs) = c :: strip plain cs := by
  obtain ⟨hquote, hopen⟩ := h
  by_cases hslash : c = '/'
  · subst hslash
    cases cs with
    | nil => rfl
    | cons d ds =>
        -- the slash is held back until the next character shows that it is text
        have hd : d ≠ '/' ∧ d ≠ '*' := by simpa using hopen rfl
        calc strip plain ('/' :: d :: ds)
            = strip slash (d :: ds) := rfl
          _ = '/' :: d :: strip (afterPlain d) ds := strip_cons_of_isOutside rfl hd.1 hd.2 ds
          _ = '/' :: strip plain (d :: ds) := by rw [strip_plain_cons hd.1]
  · rw [strip_plain_cons hslash, afterPlain, hquote, if_neg Bool.false_ne_true]

/-- A string is kept. -/
theorem strip_quoted (q : Char) (cs : List Char) :
    strip (quoted q) cs = (stringUpTo q cs).1 ++ strip plain (stringUpTo q cs).2 := by
  fun_induction stringUpTo q cs with
  | case1 => rfl
  | case2 => rfl
  | case3 e es inside rest hinside ih =>
      -- a backslash, and what it takes along
      rw [hinside] at ih
      rw [strip_cons, strip_cons]
      exact congrArg ('\\' :: e :: ·) ih
  | case4 c cs hescape hend =>
      have hnext : (quoted q).next c = plain := by rw [next, if_neg hescape, if_pos hend]
      rw [strip_cons, hnext]
      rfl
  | case5 c cs hescape hend inside rest hinside ih =>
      have hnext : (quoted q).next c = quoted q := by rw [next, if_neg hescape, if_neg hend]
      rw [hinside] at ih
      rw [strip_cons, hnext]
      exact congrArg (c :: ·) ih

/-- Of a line comment its line end is kept. -/
theorem strip_lineComment_upTo (cs : List Char) : strip lineComment cs
    = (upTo ['\n'] cs).1.filter (· == '\n') ++ strip plain (upTo ['\n'] cs).2 := by
  rcases upTo_cases ['\n'] (by simp) cs with ⟨hnot, h⟩ | ⟨body, rest, hnot, rfl, h⟩
  · rw [List.singleton_infix_iff] at hnot
    obtain ⟨hout, hafter⟩ := output_lineComment_open hnot
    rw [h, strip, hout, hafter, filter_lineEnd_eq_nil hnot]
    rfl
  · rw [List.singleton_infix_iff] at hnot
    obtain ⟨hout, hafter⟩ := output_lineComment hnot
    rw [h]
    calc strip lineComment (body ++ (['\n'] ++ rest))
        = lineComment.output (body ++ ['\n'])
            ++ strip (lineComment.after (body ++ ['\n'])) rest := by
          rw [← List.append_assoc, strip_append]
      _ = ['\n'] ++ strip plain rest := by rw [hout, hafter]
      _ = (body ++ ['\n']).filter (· == '\n') ++ strip plain rest := by
          rw [List.filter_append, filter_lineEnd_eq_nil hnot]
          rfl

/-- Of a block comment its line ends are kept. -/
theorem strip_blockComment_upTo (cs : List Char) : strip (blockComment false) cs
    = (upTo ['*', '/'] cs).1.filter (· == '\n') ++ strip plain (upTo ['*', '/'] cs).2 := by
  rcases upTo_cases ['*', '/'] (by simp) cs with ⟨hnot, h⟩ | ⟨body, rest, hnot, rfl, h⟩
  · obtain ⟨hout, starred, hafter⟩ := @output_blockComment_open false cs hnot (by simp)
    rw [h, strip, hout, hafter]
    rfl
  · obtain ⟨hout, hafter⟩ := @output_blockComment false body hnot (by simp)
    rw [h]
    calc strip (blockComment false) (body ++ (['*', '/'] ++ rest))
        = (blockComment false).output (body ++ ['*', '/'])
            ++ strip ((blockComment false).after (body ++ ['*', '/'])) rest := by
          rw [← List.append_assoc, strip_append]
      _ = body.filter (· == '\n') ++ strip plain rest := by rw [hout, hafter]
      _ = (body ++ ['*', '/']).filter (· == '\n') ++ strip plain rest := by
          rw [List.filter_append]
          simp

/-- The reader of comments keeps of the first span what is not comment. -/
theorem strip_firstSpan (c : Char) (cs : List Char) :
    strip plain (c :: cs) = (firstSpan c cs).1.kept ++ strip plain (firstSpan c cs).2 := by
  rcases firstSpan_cases c cs with ⟨ds, rfl, rfl⟩ | ⟨ds, rfl, rfl⟩ | hquote | halone
  · exact strip_lineComment_upTo ds
  · exact strip_blockComment_upTo ds
  · rw [firstSpan_of_isQuote hquote, strip_plain_cons (ne_slash_of_isQuote hquote), afterPlain,
      if_pos hquote, strip_quoted]
    rfl
  · rw [firstSpan_of_standsAlone halone, strip_of_standsAlone halone]
    rfl

/-- **A stylesheet without its comments** is what is kept of its spans. -/
theorem stripComments_eq (cs : List Char) : stripComments cs = (spans cs).flatMap Span.kept := by
  unfold stripComments
  induction cs using spans.induct with
  | case1 =>
      rw [spans, List.flatMap_nil]
      rfl
  | case2 c cs ih => rw [strip_firstSpan, ih, spans, List.flatMap_cons]

/-! ## Reading again -/

/-- A string is found again in front of any other text, and at the end if it was not closed. -/
theorem stringUpTo_stringUpTo {q : Char} {cs rest : List Char}
    (h : (stringUpTo q cs).2 = [] → rest = []) :
    stringUpTo q ((stringUpTo q cs).1 ++ rest) = ((stringUpTo q cs).1, rest) := by
  fun_induction stringUpTo q cs with
  | case1 =>
      -- the string is open at the end of the text, and only there it is found again
      rw [h rfl]
      rfl
  | case2 =>
      rw [h rfl]
      rfl
  | case3 e es inside after hinside ih =>
      rw [hinside] at ih
      rw [List.cons_append, List.cons_append, stringUpTo, if_pos rfl]
      dsimp only
      rw [ih h]
  | case4 c cs hescape hend =>
      rw [List.cons_append, stringUpTo_cons hescape, if_pos hend]
      rfl
  | case5 c cs hescape hend inside after hinside ih =>
      rw [hinside] at ih
      rw [List.cons_append, stringUpTo_cons hescape, if_neg hend, ih h]

theorem spans_lineEnds_append {cs : List Char} (h : ∀ c ∈ cs, c = '\n') (rest : List Char) :
    spans (cs ++ rest) = cs.map .char ++ spans rest := by
  induction cs with
  | nil => rfl
  | cons c cs ih =>
      obtain rfl := h c (by simp)
      have halone : StandsAlone '\n' (cs ++ rest) := ⟨by decide, fun hc => absurd hc (by decide)⟩
      calc spans ('\n' :: (cs ++ rest))
          = .char '\n' :: spans (cs ++ rest) := by rw [spans, firstSpan_of_standsAlone halone]
        _ = .char '\n' :: (cs.map .char ++ spans rest) := by
            rw [ih fun d hd => h d (List.mem_cons_of_mem _ hd)]

/-- A character that opens nothing does not do so without the comments behind it. -/
theorem StandsAlone.strip {c : Char} {cs : List Char} (h : StandsAlone c cs) :
    StandsAlone c (strip plain cs) := by
  refine ⟨h.1, fun hc => ?_⟩
  have hopen := h.2 hc
  cases cs with
  | nil => exact hopen
  | cons d ds =>
      have hd : d ≠ '/' := fun hslash => hopen.1 (by rw [hslash]; rfl)
      rw [strip_plain_cons hd]
      exact hopen

/-- What is kept of a span is read as the same again. -/
theorem spans_kept_append (c : Char) (cs : List Char) :
    spans ((firstSpan c cs).1.kept ++ strip plain (firstSpan c cs).2)
      = (firstSpan c cs).1.settled ++ spans (strip plain (firstSpan c cs).2) := by
  have hcomment : ∀ body rest : List Char,
      spans ((Span.comment body).kept ++ rest) = (Span.comment body).settled ++ spans rest := by
    intro body rest
    refine spans_lineEnds_append (fun e he => ?_) rest
    exact beq_iff_eq.1 (List.mem_filter.1 he).2
  rcases firstSpan_cases c cs with ⟨ds, rfl, rfl⟩ | ⟨ds, rfl, rfl⟩ | hquote | halone
  · exact hcomment _ _
  · exact hcomment _ _
  · have hclosed : (stringUpTo c cs).2 = [] → strip plain (stringUpTo c cs).2 = [] := by
      intro h
      rw [h]
      rfl
    have hagain := stringUpTo_stringUpTo hclosed
    rw [firstSpan_of_isQuote hquote]
    show spans (c :: ((stringUpTo c cs).1 ++ strip plain (stringUpTo c cs).2)) = _
    rw [spans, firstSpan_of_isQuote hquote, hagain]
    rfl
  · rw [firstSpan_of_standsAlone halone]
    show spans (c :: strip plain cs) = _
    rw [spans, firstSpan_of_standsAlone halone.strip]
    rfl

/-- **The spans without comments**: each string and each character is found again. -/
theorem spans_stripComments (cs : List Char) :
    spans (stripComments cs) = (spans cs).flatMap Span.settled := by
  unfold stripComments
  induction cs using spans.induct with
  | case1 =>
      have hnil : strip plain [] = [] := rfl
      rw [hnil, spans, List.flatMap_nil]
  -- what stands behind the first span is without comments already when it is read again
  | case2 c cs ih =>
      calc spans (strip plain (c :: cs))
          = spans ((firstSpan c cs).1.kept ++ strip plain (firstSpan c cs).2) := by
            rw [strip_firstSpan]
        _ = (firstSpan c cs).1.settled ++ spans (strip plain (firstSpan c cs).2) :=
            spans_kept_append _ _
        _ = (firstSpan c cs).1.settled ++ (spans (firstSpan c cs).2).flatMap Span.settled := by
            rw [ih]
        _ = (spans (c :: cs)).flatMap Span.settled := by rw [spans, List.flatMap_cons]

/-! ## A projection -/

namespace CommentState

/-- What is let through or held back was read before or is read now. -/
theorem emits_append_atEnd_sublist (s : CommentState) (c : Char) :
    List.Sublist (s.emits c ++ (s.next c).atEnd) (s.atEnd ++ [c]) := by
  have hplain : (afterPlain c).atEnd = [] := by
    unfold afterPlain
    split <;> rfl
  cases s with
  | plain =>
      by_cases hslash : c = '/'
      · simp [emits, next, atEnd, hslash]
      · rw [emits, next, if_neg hslash, if_neg hslash, hplain]
        simp [atEnd]
  | slash =>
      by_cases hopen : c = '/' ∨ c = '*'
      · rcases hopen with rfl | rfl <;> simp [emits, next, atEnd]
      · obtain ⟨hslash, hstar⟩ := not_or.1 hopen
        rw [emits, next, if_neg hopen, if_neg hslash, if_neg hstar, hplain]
        simp [atEnd]
  | quoted q =>
      rw [next]
      split_ifs <;> simp [emits, atEnd]
  | escaped q => simp [emits, next, atEnd]
  | lineComment => by_cases hline : c = '\n' <;> simp [emits, next, atEnd, hline]
  | blockComment starred =>
      rw [next]
      split_ifs <;> by_cases hline : c = '\n' <;> simp [emits, atEnd, hline]

end CommentState

/-- A text without comments comes about by leaving out characters. -/
theorem strip_sublist (s : CommentState) (cs : List Char) :
    List.Sublist (strip s cs) (s.atEnd ++ cs) := by
  induction cs generalizing s with
  | nil => simp [strip, output]
  | cons c cs ih =>
      -- what the rest lets through is followed back over `c`
      have hstep := (emits_append_atEnd_sublist s c).append_right cs
      have hrest := (ih (s.next c)).append_left (s.emits c)
      rw [strip_cons]
      simpa using hrest.trans (by simpa using hstep)

theorem Span.count_kept (s : Span) : s.kept.count '\n' = s.text.count '\n' := by
  cases s with
  | comment cs => exact List.count_filter rfl
  | char c => rfl
  | string cs => rfl

/-- The line ends stay, so that lines keep their numbers. -/
theorem count_stripComments (cs : List Char) :
    (stripComments cs).count '\n' = cs.count '\n' := by
  conv_rhs => rw [← flatMap_text_spans cs]
  rw [stripComments_eq, List.count_flatMap, List.count_flatMap]
  exact congrArg List.sum (List.map_congr_left fun s _ => s.count_kept)

theorem Span.flatMap_kept_settled (s : Span) : s.settled.flatMap Span.kept = s.kept := by
  cases s with
  | comment cs => simp [settled, kept, text, List.flatMap_map]
  | char c => rfl
  | string cs => exact List.append_nil cs

/-- Without comments nothing is left to leave out. -/
theorem stripComments_stripComments (cs : List Char) :
    stripComments (stripComments cs) = stripComments cs := by
  rw [stripComments_eq (stripComments cs), spans_stripComments, List.flatMap_assoc,
    stripComments_eq]
  exact List.flatMap_congr fun s _ => s.flatMap_kept_settled

theorem Span.filter_isString_settled (s : Span) :
    s.settled.filter Span.isString = [s].filter Span.isString := by
  cases s with
  | comment cs => simp [settled, isString]
  | char c => rfl
  | string cs => rfl

/-- The strings stay as they are. -/
theorem filter_isString_spans_stripComments (cs : List Char) :
    (spans (stripComments cs)).filter Span.isString = (spans cs).filter Span.isString := by
  rw [spans_stripComments]
  induction spans cs with
  | nil => rfl
  | cons s rest ih =>
      calc ((s :: rest).flatMap Span.settled).filter Span.isString
          = s.settled.filter Span.isString ++ (rest.flatMap Span.settled).filter Span.isString := by
            rw [List.flatMap_cons, List.filter_append]
        _ = [s].filter Span.isString ++ rest.filter Span.isString := by
            rw [s.filter_isString_settled, ih]
        _ = (s :: rest).filter Span.isString := by
            rw [← List.filter_append]
            rfl

/-! ## Texts without comments -/

theorem holdsOpening_cons {c : Char} {cs : List Char} : HoldsOpening (c :: cs) ↔
    (c = '/' ∧ (cs.head? = some '/' ∨ cs.head? = some '*')) ∨ HoldsOpening cs := by
  have hpair : ∀ e : Char, ['/', e] <+: c :: cs ↔ c = '/' ∧ cs.head? = some e := by
    intro e
    cases cs <;> simp [List.cons_prefix_cons, eq_comm]
  rw [HoldsOpening, List.infix_cons_iff, List.infix_cons_iff, hpair, hpair, HoldsOpening]
  tauto

theorem outsideStrings_cons (c : Char) (cs : List Char) : outsideStrings (c :: cs)
    = (if (firstSpan c cs).1.isString then [' '] else (firstSpan c cs).1.text)
      ++ outsideStrings (firstSpan c cs).2 := by
  rw [outsideStrings, spans, List.flatMap_cons]
  rfl

/-- Outside the strings a stylesheet starts as it does, or with a blank. -/
theorem head?_outsideStrings {cs : List Char} {e : Char} (he : e ≠ ' ')
    (h : (outsideStrings cs).head? = some e) : cs.head? = some e := by
  cases cs with
  | nil => simp [outsideStrings, spans] at h
  | cons c cs =>
      rw [outsideStrings_cons] at h
      rcases firstSpan_cases c cs with ⟨ds, rfl, rfl⟩ | ⟨ds, rfl, rfl⟩ | hquote | halone
      · exact h
      · exact h
      · rw [firstSpan_of_isQuote hquote] at h
        exact absurd (Option.some.inj h).symm he
      · rw [firstSpan_of_standsAlone halone] at h
        exact h

/-- A character that opens nothing does not do so either if the strings behind it are blank. -/
theorem StandsAlone.holdsOpening_iff {c : Char} {cs : List Char} (h : StandsAlone c cs) :
    HoldsOpening (c :: outsideStrings cs) ↔ HoldsOpening (outsideStrings cs) := by
  rw [holdsOpening_cons]
  refine or_iff_right ?_
  rintro ⟨hc, hhead | hhead⟩
  · exact (h.2 hc).1 (head?_outsideStrings (by decide) hhead)
  · exact (h.2 hc).2 (head?_outsideStrings (by decide) hhead)

/-- **Nothing is left out** exactly if no comment opens outside the strings. -/
theorem stripComments_eq_self_iff (cs : List Char) :
    stripComments cs = cs ↔ ¬ HoldsOpening (outsideStrings cs) := by
  unfold stripComments
  -- the marks that open a comment are left out with it
  have hshort : ∀ (s : CommentState) (ds : List Char) (e : Char), s.atEnd = [] →
      strip s ds ≠ '/' :: e :: ds := by
    intro s ds e hs heq
    have hlength := (strip_sublist s ds).length_le
    rw [hs, heq, List.nil_append, List.length_cons, List.length_cons] at hlength
    omega
  induction cs using spans.induct with
  | case1 => simp [strip, output, atEnd, outsideStrings, spans, HoldsOpening]
  | case2 c cs ih =>
      rw [outsideStrings_cons]
      rcases firstSpan_cases c cs with ⟨ds, rfl, rfl⟩ | ⟨ds, rfl, rfl⟩ | hquote | halone
      · have hopens : HoldsOpening ('/' :: '/' :: ((upTo ['\n'] ds).1
            ++ outsideStrings (upTo ['\n'] ds).2)) := holdsOpening_cons.2 (.inl ⟨rfl, .inl rfl⟩)
        exact iff_of_false (hshort lineComment ds '/' rfl) (not_not_intro hopens)
      · have hopens : HoldsOpening ('/' :: '*' :: ((upTo ['*', '/'] ds).1
            ++ outsideStrings (upTo ['*', '/'] ds).2)) := holdsOpening_cons.2 (.inl ⟨rfl, .inr rfl⟩)
        exact iff_of_false (hshort (blockComment false) ds '*' rfl) (not_not_intro hopens)
      · have happend := firstSpan_append c cs
        have hblank : HoldsOpening (' ' :: outsideStrings (stringUpTo c cs).2)
            ↔ HoldsOpening (outsideStrings (stringUpTo c cs).2) := by
          rw [holdsOpening_cons]
          simp
        rw [strip_firstSpan, ← happend]
        rw [firstSpan_of_isQuote hquote] at ih ⊢
        calc (c :: (stringUpTo c cs).1) ++ strip plain (stringUpTo c cs).2
              = (c :: (stringUpTo c cs).1) ++ (stringUpTo c cs).2
            ↔ strip plain (stringUpTo c cs).2 = (stringUpTo c cs).2 := List.append_right_inj _
          _ ↔ ¬ HoldsOpening (outsideStrings (stringUpTo c cs).2) := ih
          _ ↔ ¬ HoldsOpening (' ' :: outsideStrings (stringUpTo c cs).2) := not_congr hblank.symm
      · rw [firstSpan_of_standsAlone halone] at ih ⊢
        calc strip plain (c :: cs) = c :: cs
            ↔ c :: strip plain cs = c :: cs := by rw [strip_of_standsAlone halone]
          _ ↔ strip plain cs = cs := List.cons_inj_right c
          _ ↔ ¬ HoldsOpening (outsideStrings cs) := ih
          _ ↔ ¬ HoldsOpening (c :: outsideStrings cs) := not_congr halone.holdsOpening_iff.symm

/-- **Leaving comments out is a projection that keeps lines.** Done twice it does what it does once;
it only leaves out characters, and no line end; of the spans of a stylesheet it keeps all but the
inside of comments, the strings as they are; and it leaves out nothing exactly if neither `//` nor
`/*` stands outside the strings. -/
theorem stripComments_projection (cs : List Char) :
    stripComments (stripComments cs) = stripComments cs ∧
      List.Sublist (stripComments cs) cs ∧ (stripComments cs).count '\n' = cs.count '\n' ∧
      ((spans cs).flatMap Span.text = cs ∧ stripComments cs = (spans cs).flatMap Span.kept ∧
        (spans (stripComments cs)).filter Span.isString = (spans cs).filter Span.isString) ∧
      (stripComments cs = cs ↔
        ¬ ['/', '/'] <:+: outsideStrings cs ∧ ¬ ['/', '*'] <:+: outsideStrings cs) :=
  ⟨stripComments_stripComments cs, strip_sublist plain cs, count_stripComments cs,
    ⟨flatMap_text_spans cs, stripComments_eq cs, filter_isString_spans_stripComments cs⟩,
    (stripComments_eq_self_iff cs).trans not_or⟩

example : spans "\"\\\"/*\"/*'\n*//".toList
    = [.string "\"\\\"/*\"".toList, .comment "/*'\n*/".toList, .char '/'] := by decide +kernel

end Stylesheet.Scan
