import Stylesheet.Proofs.Text.Pieces
import Stylesheet.Text.Styled

set_option autoImplicit false

/-! # Styled text without its styles

An escape sequence for a style is an escape character, a bracket, numbers with semicolons between
them and the letter `m`. A text that was styled gives back what it was without colours once these
are taken out, unless it held an escape character before (`withoutStyles_renderLines`), and its
lines are those that were written (`pieces_renderLines`).
-/

namespace Stylesheet.Text

/-- What stands between the bracket and the letter of an escape sequence for a style. -/
def isParameter (c : Char) : Bool := c.isDigit || c == ';'

/-- Whether an escape sequence for a style stands at the front of a text. -/
def startsStyle : List Char → Bool
  | '\x1b' :: '[' :: rest => (rest.dropWhile isParameter).head? == some 'm'
  | _ => false

/-- A text without its escape sequences for styles, read from the inside of one on or not. -/
def withoutStylesFrom : Bool → List Char → List Char
  | _, [] => []
  | true, c :: cs => withoutStylesFrom (c != 'm') cs
  | false, c :: cs =>
    if startsStyle (c :: cs) then withoutStylesFrom true cs else c :: withoutStylesFrom false cs

/-- A text without its escape sequences for styles. -/
def withoutStyles (text : List Char) : List Char := withoutStylesFrom false text

/-- Only an escape character begins a sequence. -/
theorem startsStyle_of_ne {c : Char} (h : c ≠ '\x1b') (cs : List Char) :
    startsStyle (c :: cs) = false := by
  unfold startsStyle
  split
  · next heq => exact absurd (List.cons.inj heq).1 h
  · rfl

/-- A text without escape characters is kept as it is. -/
theorem withoutStyles_append {text : List Char} (h : '\x1b' ∉ text) (rest : List Char) :
    withoutStyles (text ++ rest) = text ++ withoutStyles rest := by
  induction text with
  | nil => rfl
  | cons c cs ih =>
      obtain ⟨hc, hcs⟩ := not_or.1 (List.mem_cons.not.1 h)
      have htail : withoutStylesFrom false (cs ++ rest) = cs ++ withoutStyles rest := ih hcs
      have hplain := startsStyle_of_ne (Ne.symm hc) (cs ++ rest)
      calc withoutStyles (c :: cs ++ rest)
          = c :: withoutStylesFrom false (cs ++ rest) := by
            rw [List.cons_append, withoutStyles, withoutStylesFrom, hplain,
              if_neg Bool.false_ne_true]
        _ = c :: cs ++ withoutStyles rest := by rw [htail, List.cons_append]

/-- An escape sequence ends at its letter. -/
theorem withoutStylesFrom_parameters {ps : List Char} (h : ∀ c ∈ ps, isParameter c = true)
    (rest : List Char) : withoutStylesFrom true (ps ++ 'm' :: rest) = withoutStyles rest := by
  induction ps with
  | nil => rfl
  | cons p ps ih =>
      have hp : (p != 'm') = true := by
        rw [bne_iff_ne]
        rintro rfl
        exact absurd (h 'm' (by simp)) (by decide)
      rw [List.cons_append, withoutStylesFrom, hp, ih fun c hc => h c (List.mem_cons_of_mem p hc)]

/-- An escape sequence for a style is taken out as a whole. -/
theorem withoutStyles_escapeSequence {code : String}
    (h : ∀ c ∈ code.toList, isParameter c = true) (rest : List Char) :
    withoutStyles (escapeSequence code ++ rest) = withoutStyles rest := by
  have hseq : escapeSequence code ++ rest
      = '\x1b' :: '[' :: (code.toList ++ 'm' :: rest) := by simp [escapeSequence]
  have hstarts : startsStyle ('\x1b' :: '[' :: (code.toList ++ 'm' :: rest)) = true := by
    have hm : ¬ isParameter 'm' = true := by decide
    rw [startsStyle, List.dropWhile_append_of_pos h, List.dropWhile_cons_of_neg hm]
    rfl
  rw [hseq, withoutStyles, withoutStylesFrom, if_pos hstarts, withoutStylesFrom]
  exact withoutStylesFrom_parameters h rest

theorem isParameter_of_mem_code (s : Style) : ∀ c ∈ s.code.toList, isParameter c = true := by
  have hcolour : ∀ c : Colour, c.code.toList.all isParameter = true := by
    intro c
    cases c <;> decide
  refine List.all_eq_true.1 ?_
  cases s with
  | bold => decide
  | dimmed => decide
  | colour c => exact hcolour c
  | boldColour c =>
      have hbold : "1;".toList.all isParameter = true := by decide
      rw [Style.code, String.toList_append, List.all_append, hbold, hcolour c, Bool.and_true]

/-- A word that does not stand in a text is replaced nowhere. -/
theorem replaceAll_of_not_infix {α : Type} [DecidableEq α] {w : List α} (r : List α) {as : List α}
    (h : ¬ w <:+: as) : replaceAll w r as = as := by
  rw [replaceAll, replaceUpTo, cutAt?_eq_none_iff.2 h]

namespace Segment

/-- A segment without escape characters is its own text again. -/
theorem withoutStyles_inColour {s : Segment} (h : '\x1b' ∉ s.text) (rest : List Char) :
    withoutStyles (s.inColour ++ rest) = s.text ++ withoutStyles rest := by
  cases s with
  | plain t => exact withoutStyles_append h rest
  | styled style t =>
      -- a text that ends no style itself is written as it is
      have htext : '\x1b' ∉ t.toList := h
      have hreset : ¬ reset <:+: t.toList :=
        fun hin => htext (hin.subset (by simp [reset, escapeSequence]))
      have hzero : ∀ c ∈ "0".toList, isParameter c = true := List.all_eq_true.1 (by decide)
      have hkept : (styled style t).inColour ++ rest
          = escapeSequence style.code ++ (t.toList ++ (escapeSequence "0" ++ rest)) := by
        rw [inColour, replaceAll_of_not_infix _ hreset, List.append_assoc, List.append_assoc, reset]
      calc withoutStyles ((styled style t).inColour ++ rest)
          = withoutStyles (escapeSequence style.code ++
              (t.toList ++ (escapeSequence "0" ++ rest))) := by rw [hkept]
        _ = withoutStyles (t.toList ++ (escapeSequence "0" ++ rest)) :=
            withoutStyles_escapeSequence (isParameter_of_mem_code style) _
        _ = t.toList ++ withoutStyles (escapeSequence "0" ++ rest) := withoutStyles_append htext _
        _ = t.toList ++ withoutStyles rest := by rw [withoutStyles_escapeSequence hzero]

end Segment

theorem renderSegments_nil (colours : Bool) : renderSegments colours [] = [] := rfl

theorem renderSegments_cons (s : Segment) (l : List Segment) :
    renderSegments false (s :: l) = s.text ++ renderSegments false l := rfl

theorem withoutStyles_renderSegments {l : List Segment} (h : ∀ s ∈ l, '\x1b' ∉ s.text)
    (rest : List Char) :
    withoutStyles (renderSegments true l ++ rest)
      = renderSegments false l ++ withoutStyles rest := by
  induction l with
  | nil => rfl
  | cons s l ih =>
      have hl := ih fun t ht => h t (List.mem_cons_of_mem s ht)
      calc withoutStyles (renderSegments true (s :: l) ++ rest)
          = withoutStyles (s.inColour ++ (renderSegments true l ++ rest)) := by
            rw [← List.append_assoc]
            rfl
        _ = s.text ++ withoutStyles (renderSegments true l ++ rest) :=
            Segment.withoutStyles_inColour (h s (by simp)) _
        _ = renderSegments false (s :: l) ++ withoutStyles rest := by
            rw [hl, renderSegments_cons, List.append_assoc]

/-- **Lines are the same with and without colours**, once the escape sequences are taken out. -/
theorem withoutStyles_renderLines {lines : List (List Segment)}
    (h : ∀ l ∈ lines, ∀ s ∈ l, '\x1b' ∉ s.text) :
    withoutStyles (renderLines true lines) = renderLines false lines := by
  induction lines with
  | nil => rfl
  | cons l lines ih =>
      have hnewline : '\x1b' ∉ ['\n'] := by decide
      have hlines := ih fun m hm => h m (List.mem_cons_of_mem l hm)
      have hcons : ∀ colours, renderLines colours (l :: lines)
          = renderSegments colours l ++ (['\n'] ++ renderLines colours lines) := by
        intro colours
        rw [← List.append_assoc]
        rfl
      calc withoutStyles (renderLines true (l :: lines))
          = withoutStyles (renderSegments true l ++ (['\n'] ++ renderLines true lines)) := by
            rw [hcons]
        _ = renderSegments false l ++ withoutStyles (['\n'] ++ renderLines true lines) :=
            withoutStyles_renderSegments (h l (by simp)) _
        _ = renderSegments false l ++ (['\n'] ++ renderLines false lines) := by
            rw [withoutStyles_append hnewline, hlines]
        _ = renderLines false (l :: lines) := (hcons false).symm

/-- The lines of a text are those that were written. -/
theorem pieces_renderLines {lines : List (List Segment)}
    (h : ∀ l ∈ lines, ∀ s ∈ l, '\n' ∉ s.text) :
    pieces (· == '\n') (renderLines false lines) = lines.map (renderSegments false) ++ [[]] := by
  induction lines with
  | nil => rfl
  | cons l lines ih =>
      have hline : '\n' ∉ renderSegments false l := by
        intro hin
        obtain ⟨s, hs, hin⟩ := List.mem_flatMap.1 hin
        exact h l (by simp) s hs hin
      have hlines := ih fun m hm => h m (List.mem_cons_of_mem l hm)
      have hcons : renderLines false (l :: lines)
          = renderSegments false l ++ '\n' :: renderLines false lines := by
        simp [renderLines]
      rw [hcons, pieces_append_sep, pieces_of_not_mem hline, hlines]
      rfl

end Stylesheet.Text
