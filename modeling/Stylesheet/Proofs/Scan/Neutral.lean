import Stylesheet.Proofs.Scan.Printing

set_option autoImplicit false

/-! # What stands behind a neutral text

A text is neutral if the reader of comments ends it outside every string and every comment
(`Neutral`). What is held back there, a slash at most, is let through by any character that opens no
comment, and what follows is read as if it stood alone (`strip_append_cons`). So a semicolon behind
a neutral text cuts the scan in two (`scanImports_joined`), and a comment that opens behind one
leaves no trace but its line ends (`scanImports_comment`).
-/

namespace Stylesheet.Scan

namespace CommentState

/-- Outside every string and every comment. A slash that is held back is text so far. -/
def isOutside : CommentState → Bool
  | plain => true
  | slash => true
  | _ => false

/-- Only a slash is held back. -/
theorem eq_slash_of_next {s : CommentState} {c : Char} (h : s.next c = slash) : c = '/' := by
  cases s <;> grind [next, afterPlain]

/-- Where no slash comes last, nothing is held back outside strings and comments. -/
theorem after_eq_plain {cs : List Char} (hout : (plain.after cs).isOutside = true)
    (hlast : cs.getLast? ≠ some '/') : plain.after cs = plain := by
  rcases cs.eq_nil_or_concat' with rfl | ⟨before, c, rfl⟩
  · rfl
  · have hc : c ≠ '/' := by simpa using hlast
    have hslash : plain.after (before ++ [c]) ≠ slash := by
      rw [after_append]
      exact fun h => hc (eq_slash_of_next h)
    cases hs : plain.after (before ++ [c]) with
    | plain => rfl
    | slash => exact absurd hs hslash
    | _ =>
        rw [hs] at hout
        cases hout

end CommentState

open CommentState

/-! ## Reading on -/

/-- A character that opens no comment lets through what was held back, and is read as it is behind
any other text. -/
theorem strip_cons_of_isOutside {s : CommentState} (hs : s.isOutside = true) {c : Char}
    (hslash : c ≠ '/') (hstar : c ≠ '*') (cs : List Char) :
    strip s (c :: cs) = s.atEnd ++ c :: strip (afterPlain c) cs := by
  rw [strip_cons]
  cases s with
  | plain => simp [emits, next, atEnd, hslash]
  | slash => simp [emits, next, atEnd, hslash, hstar]
  | _ => cases hs

/-- What is read behind a text that ends outside strings and comments. -/
theorem strip_append_cons {s : CommentState} {as : List Char} (hs : (s.after as).isOutside = true)
    {c : Char} (hslash : c ≠ '/') (hstar : c ≠ '*') (bs : List Char) :
    strip s (as ++ c :: bs) = strip s as ++ c :: strip (afterPlain c) bs := by
  rw [strip_append, strip_cons_of_isOutside hs hslash hstar, ← List.append_assoc]
  rfl

theorem endsStatement_iff {d : Dialect} {c : Char} :
    endsStatement d c = true ↔ c = ';' ∨ d = .indented ∧ c = '\n' := by
  simp [endsStatement]

/-- The end of a statement behind such a text cuts the scan in two. -/
theorem importsOf_append_of_ends {d : Dialect} {c : Char} (hc : endsStatement d c = true)
    {as : List Char} (hs : (plain.after as).isOutside = true) (bs : List Char) :
    importsOf d (as ++ c :: bs) = importsOf d as ++ importsOf d bs := by
  -- neither a semicolon nor a line end opens anything
  have hmark : c ≠ '/' ∧ c ≠ '*' ∧ isQuote c = false := by
    rcases endsStatement_iff.1 hc with rfl | ⟨-, rfl⟩ <;> decide
  obtain ⟨hslash, hstar, hquote⟩ := hmark
  have hplain : afterPlain c = plain := by rw [afterPlain, hquote, if_neg Bool.false_ne_true]
  calc importsOf d (as ++ c :: bs)
      = reads d (strip plain (as ++ c :: bs)) := rfl
    _ = reads d (strip plain as ++ c :: strip plain bs) := by
        rw [strip_append_cons hs hslash hstar, hplain]
    _ = importsOf d as ++ importsOf d bs := reads_append_of_ends d hc _ _

/-! ## Comments -/

/-- A line comment leaves its line end. -/
theorem strip_lineComment {body : List Char} (h : '\n' ∉ body) (cs : List Char) :
    strip plain ('/' :: '/' :: (body ++ '\n' :: cs)) = strip plain ('\n' :: cs) := by
  obtain ⟨hout, hafter⟩ := output_lineComment h
  have hopen : strip plain ('/' :: '/' :: (body ++ '\n' :: cs))
      = strip lineComment (body ++ ['\n'] ++ cs) := by
    rw [List.append_assoc]
    rfl
  rw [hopen, strip_append, hout, hafter]
  rfl

/-- A block comment leaves the line ends in it. -/
theorem strip_blockComment {body : List Char} (h : ¬ ['*', '/'] <:+: body) (cs : List Char) :
    strip plain ('/' :: '*' :: (body ++ '*' :: '/' :: cs))
      = body.filter (· == '\n') ++ strip plain cs := by
  obtain ⟨hout, hafter⟩ := @output_blockComment false body h (by simp)
  have hopen : strip plain ('/' :: '*' :: (body ++ '*' :: '/' :: cs))
      = strip (blockComment false) (body ++ ['*', '/'] ++ cs) := by
    rw [List.append_assoc]
    rfl
  rw [hopen, strip_append, hout, hafter]

/-! ## Neutral texts -/

/-- A text that the reader of comments ends outside every string and every comment. -/
def Neutral (source : String) : Prop := (plain.after source.toList).isOutside = true

instance (source : String) : Decidable (Neutral source) :=
  inferInstanceAs (Decidable (_ = true))

theorem scanImports_append_semicolon {a : String} (ha : Neutral a) (d : Dialect) (b : String) :
    scanImports (a ++ ";" ++ b) d = scanImports a d ++ scanImports b d := by
  have htext : (a ++ ";" ++ b).toList = a.toList ++ ';' :: b.toList := by simp
  rw [scanImports, htext, importsOf_append_of_ends (by simp [endsStatement]) ha, List.map_append]
  rfl

/-- **Statements are scanned one by one.** A neutral text and what follows it behind a semicolon are
scanned on their own, and so are neutral texts with semicolons between them. -/
theorem scanImports_joined (d : Dialect) :
    (∀ a b : String, Neutral a →
      scanImports (a ++ ";" ++ b) d = scanImports a d ++ scanImports b d) ∧
    ∀ texts : List String, (∀ t ∈ texts, Neutral t) →
      scanImports (";".intercalate texts) d = texts.flatMap fun t => scanImports t d := by
  refine ⟨fun a b ha => scanImports_append_semicolon ha d b, fun texts htexts => ?_⟩
  -- each text is cut off in front of the others, which are cut by induction
  induction texts with
  | nil => cases d <;> rfl
  | cons t texts ih =>
      have ht := htexts t (by simp)
      cases texts with
      | nil => simp
      | cons u texts =>
          have hrest := ih fun v hv => htexts v (List.mem_cons_of_mem t hv)
          rw [String.intercalate_cons_cons, scanImports_append_semicolon ht, hrest]
          rfl

/-- Neither a slash at the end of a statement nor a comment in one reaches beyond its semicolon. -/
theorem scanImports_joined_slash :
    (∀ t ∈ ["@import 'a' /* ; */", "ratio: x/", "@use \"b\" // ;\n"], Neutral t) ∧
      scanImports "@import 'a' /* ; */;ratio: x/;@use \"b\" // ;\n" .scss = ["a", "b"] := by
  have hneutral : ∀ t ∈ ["@import 'a' /* ; */", "ratio: x/", "@use \"b\" // ;\n"], Neutral t := by
    decide +kernel
  have hjoined := (scanImports_joined .scss).2 _ hneutral
  refine ⟨hneutral, ?_⟩
  calc scanImports "@import 'a' /* ; */;ratio: x/;@use \"b\" // ;\n" .scss
      = ["@import 'a' /* ; */", "ratio: x/", "@use \"b\" // ;\n"].flatMap
          fun t => scanImports t .scss := hjoined
    _ = ["a", "b"] := by decide +kernel

/-- **Comments are invisible to the scanner.** Behind a neutral text that does not end in a slash, a
line comment stands for its line end, and a block comment on one line for nothing. -/
theorem scanImports_comment (d : Dialect) {a : String} (ha : Neutral a)
    (hlast : a.toList.getLast? ≠ some '/') (b : String) :
    (∀ c : String, '\n' ∉ c.toList →
      scanImports (a ++ "//" ++ c ++ "\n" ++ b) d = scanImports (a ++ "\n" ++ b) d) ∧
    ∀ c : String, '\n' ∉ c.toList → ¬ ['*', '/'] <:+: c.toList →
      scanImports (a ++ "/*" ++ c ++ "*/" ++ b) d = scanImports (a ++ b) d := by
  have hplain : plain.after a.toList = plain := after_eq_plain ha hlast
  -- nothing is held back of `a`, so what follows it counts only as it is without comments
  have hbehind : ∀ s t : String, strip plain s.toList = strip plain t.toList →
      scanImports (a ++ s) d = scanImports (a ++ t) d := by
    intro s t h
    have hstrip : stripComments (a ++ s).toList = stripComments (a ++ t).toList := by
      calc stripComments (a ++ s).toList
          = plain.output a.toList ++ strip (plain.after a.toList) s.toList := by
            rw [stripComments, String.toList_append, strip_append]
        _ = plain.output a.toList ++ strip (plain.after a.toList) t.toList := by rw [hplain, h]
        _ = stripComments (a ++ t).toList := by
            rw [stripComments, String.toList_append, strip_append]
    unfold scanImports importsOf
    rw [hstrip]
  constructor
  · intro c hc
    have htext : ("//" ++ c ++ "\n" ++ b).toList
        = '/' :: '/' :: (c.toList ++ '\n' :: b.toList) := by simp
    have hrest : ("\n" ++ b).toList = '\n' :: b.toList := by simp
    have hstrip := hbehind ("//" ++ c ++ "\n" ++ b) ("\n" ++ b) (by
      rw [htext, hrest, strip_lineComment hc])
    simpa only [String.append_assoc] using hstrip
  · intro c hc hclose
    have htext : ("/*" ++ c ++ "*/" ++ b).toList
        = '/' :: '*' :: (c.toList ++ '*' :: '/' :: b.toList) := by simp
    have hlines : c.toList.filter (· == '\n') = [] := by
      refine List.filter_eq_nil_iff.2 fun e he heq => hc ?_
      exact beq_iff_eq.1 heq ▸ he
    have hstrip := hbehind ("/*" ++ c ++ "*/" ++ b) b (by
      rw [htext, strip_blockComment hclose, hlines, List.nil_append])
    simpa only [String.append_assoc] using hstrip

/-- What stands in a comment is no directive and no string, and a star before its end does not
keep it open. -/
theorem scanImports_comment_quote :
    (Neutral "a: 'c' " ∧ "a: 'c' ".toList.getLast? ≠ some '/') ∧
      ('\n' ∉ "\"/*@use 'x';".toList ∧
        scanImports ("a: 'c' " ++ "//" ++ "\"/*@use 'x';" ++ "\n" ++ ";@use 'd'") .scss = ["d"]) ∧
      ('\n' ∉ "/'@use \"y\";*".toList ∧ ¬ ['*', '/'] <:+: "/'@use \"y\";*".toList ∧
        scanImports ("a: 'c' " ++ "/*" ++ "/'@use \"y\";*" ++ "*/" ++ ";@use 'd'") .scss
          = ["d"]) := by
  have hneutral : Neutral "a: 'c' " ∧ "a: 'c' ".toList.getLast? ≠ some '/' := by decide +kernel
  have hline : '\n' ∉ "\"/*@use 'x';".toList := by decide +kernel
  have hblock : '\n' ∉ "/'@use \"y\";*".toList ∧
      ¬ ['*', '/'] <:+: "/'@use \"y\";*".toList := by decide +kernel
  obtain ⟨hlines, hblocks⟩ := scanImports_comment .scss hneutral.1 hneutral.2 ";@use 'd'"
  refine ⟨hneutral, ⟨hline, ?_⟩, hblock.1, hblock.2, ?_⟩
  · rw [hlines _ hline]
    decide +kernel
  · rw [hblocks _ hblock.1 hblock.2]
    decide +kernel

end Stylesheet.Scan
