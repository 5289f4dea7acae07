import Stylesheet.Compile.LineCompiler
import Stylesheet.Proofs.Scan.Reading

set_option autoImplicit false

/-! # Stylesheets whose imports stand on lines of their own

A compiler of lines and the scanner read a stylesheet in different ways: the one takes lines
that are an import and nothing else, the other leaves comments out and cuts at semicolons. They
find the same imports (`importsOf_eq_lineImports`) in a stylesheet all of whose lines are such
imports or *harmless*, that is, blank or at an end of a statement or block and without anything
that could start an import, a string or a comment (`PlainLine`).
-/

namespace Stylesheet.Scan

/-! ## Lines -/

/-- What a line imports for a compiler of lines, which knows no statements: the line is one
directive with one specifier. -/
def lineImport? (line : List Char) : Option (List Char) :=
  Line.argument? "@import".toList (Text.trim line)

def lineImports (source : List Char) : List (List Char) :=
  (Text.lines source).filterMap lineImport?

/-- A specifier that is spelled plainly and names a stylesheet to compile. -/
structure Importable (spec : List Char) : Prop where
  no_quote : ∀ c ∈ spec, isQuote c = false
  no_escape : '\\' ∉ spec
  no_brace : ∀ c ∈ spec, isBrace c = false
  no_semicolon : ';' ∉ spec
  not_remote : isRemote spec = false
  not_builtIn : isBuiltIn spec = false
  not_css : isPlainCss spec = false

def importStatement (spec : List Char) : List Char :=
  "@import".toList ++ ' ' :: '"' :: (spec ++ ['"'])

def importLine (spec : List Char) : List Char := importStatement spec ++ [';']

/-- Whether a character may start an import, a string, an escape or a comment. -/
def isMark (c : Char) : Bool := c == '@' || isQuote c || c == '/' || c == '\\'

/-- A line that is one import, or harmless. -/
inductive PlainLine : List Char → Prop
  | importing {spec : List Char} (h : Importable spec) : PlainLine (importLine spec)
  | blank {line : List Char} (h : ∀ c ∈ line, Text.isBlank c = true) : PlainLine line
  | closing {line : List Char} (h : ∀ c ∈ line, isMark c = false)
      (hlast : line.getLast? = some ';' ∨ line.getLast? = some '\x7d') : PlainLine line

theorem importStatement_eq (spec : List Char) : importStatement spec =
    '@' :: (['i', 'm', 'p', 'o', 'r', 't', ' ', '"'] ++ spec ++ ['"']) := rfl

theorem importLine_eq (spec : List Char) : importLine spec =
    '@' :: (['i', 'm', 'p', 'o', 'r', 't', ' ', '"'] ++ spec ++ ['"'] ++ [';']) := rfl

/-- What no character of a specifier is, nor of what stands around it. -/
theorem forall_mem_importStatement {p : Char → Bool} {spec : List Char}
    (hspec : ∀ c ∈ spec, p c = false)
    (hword : ['@', 'i', 'm', 'p', 'o', 'r', 't', ' ', '"'].any p = false) :
    ∀ c ∈ importStatement spec, p c = false := by
  intro c hc
  rw [any_eq_false_iff] at hword
  rw [importStatement_eq] at hc
  rcases List.mem_cons.1 hc with rfl | hc
  · exact hword _ (by simp)
  · rcases List.mem_append.1 hc with hc | hc
    · rcases List.mem_append.1 hc with hc | hc
      · exact hword c (List.mem_cons_of_mem _ hc)
      · exact hspec c hc
    · exact hword c (List.mem_singleton.1 hc ▸ by simp)

theorem trim_importLine (spec : List Char) : Text.trim (importLine spec) = importLine spec := by
  rw [importLine_eq]
  exact Text.trimWhile_cons_concat (by decide) (by decide) _

/-- An import is what its line says. -/
theorem lineImport?_importLine (spec : List Char) : lineImport? (importLine spec) = some spec := by
  have hafter : Text.after? "@import".toList (importLine spec)
      = some (' ' :: '"' :: (spec ++ ['"'] ++ [';'])) :=
    Text.after?_eq_some_iff.2 rfl
  rw [lineImport?, trim_importLine, Line.argument?, hafter]
  simp only [Option.bind_eq_bind, Option.bind_some]
  rw [trim_blank_cons (by decide) (by decide) (by decide)]
  simp [Text.after?]

theorem lineImport?_of_no_at {line : List Char} (h : '@' ∉ line) : lineImport? line = none := by
  have hnone : Text.after? "@import".toList (Text.trim line) = none := by
    cases ht : Text.after? "@import".toList (Text.trim line) with
    | none => rfl
    | some rest =>
        have he := Text.after?_eq_some_iff.1 ht
        have hat : '@' ∈ Text.trim line := by simp [he]
        exact absurd (Text.mem_of_mem_trimWhile hat) h
  rw [lineImport?, Line.argument?, hnone]
  rfl

theorem isMark_of_isBlank {c : Char} (h : Text.isBlank c = true) : isMark c = false := by
  rw [← Bool.not_eq_true]
  intro hm
  simp only [isMark, isQuote, Bool.or_eq_true, beq_iff_eq] at hm
  rcases hm with ((rfl | rfl | rfl) | rfl) | rfl <;> exact absurd h (by decide)

/-- A line that is no import has no mark. -/
theorem PlainLine.cases {line : List Char} (h : PlainLine line) :
    (∃ spec, Importable spec ∧ line = importLine spec) ∨ ∀ c ∈ line, isMark c = false := by
  cases h with
  | importing h => exact Or.inl ⟨_, h, rfl⟩
  | blank h => exact Or.inr fun c hc => isMark_of_isBlank (h c hc)
  | closing h hlast => exact Or.inr h

theorem lineImport?_of_no_mark {line : List Char} (h : ∀ c ∈ line, isMark c = false) :
    lineImport? line = none := by
  refine lineImport?_of_no_at fun hat => ?_
  exact absurd (h '@' hat) (by decide)

-- The tests run over the characters of the text at hand: there are finitely many characters, and
-- a decision of `∀ c ∈ cs, _` may go through them all.
theorem importable_iff (spec : List Char) : Importable spec ↔
    (spec.any isQuote = false ∧ spec.any isBrace = false) ∧ ('\\' ∉ spec ∧ ';' ∉ spec) ∧
      isRemote spec = false ∧ isBuiltIn spec = false ∧ isPlainCss spec = false := by
  rw [any_eq_false_iff, any_eq_false_iff]
  constructor
  · intro h
    exact ⟨⟨h.no_quote, h.no_brace⟩, ⟨h.no_escape, h.no_semicolon⟩, h.not_remote, h.not_builtIn,
      h.not_css⟩
  · rintro ⟨⟨hquote, hbrace⟩, ⟨hescape, hsemicolon⟩, hremote, hbuiltIn, hcss⟩
    exact ⟨hquote, hescape, hbrace, hsemicolon, hremote, hbuiltIn, hcss⟩

theorem plainLine_iff (line : List Char) : PlainLine line ↔
    (∃ spec ∈ (lineImport? line).toList, line = importLine spec ∧ Importable spec) ∨
      line.all Text.isBlank = true ∨ line.any isMark = false ∧
        (line.getLast? = some ';' ∨ line.getLast? = some '\x7d') := by
  rw [List.all_eq_true, any_eq_false_iff]
  constructor
  · intro h
    cases h with
    | @importing spec h => exact Or.inl ⟨spec, by simp [lineImport?_importLine], rfl, h⟩
    | blank h => exact Or.inr (Or.inl h)
    | closing h hlast => exact Or.inr (Or.inr ⟨h, hlast⟩)
  · rintro (⟨spec, -, rfl, h⟩ | h | ⟨h, hlast⟩)
    · exact .importing h
    · exact .blank h
    · exact .closing h hlast

instance (spec : List Char) : Decidable (Importable spec) :=
  decidable_of_iff _ (importable_iff spec).symm

instance (line : List Char) : Decidable (PlainLine line) :=
  decidable_of_iff _ (plainLine_iff line).symm

/-! ## Comments -/

namespace CommentState

theorem passes_of_no_mark {cs : List Char} (h : ∀ c ∈ cs, isMark c = false) : Passes cs := by
  refine passes_of_plain fun c hc => ?_
  have hmark := h c hc
  simp only [isMark, Bool.or_eq_false_iff, beq_eq_false_iff_ne] at hmark
  exact ⟨hmark.1.1.2, hmark.1.2⟩

theorem passes_importLine {spec : List Char} (h : Importable spec) (hline : '\n' ∉ spec) :
    Passes (importLine spec) := by
  have hquote : '"' ∉ spec := fun hc => absurd (h.no_quote _ hc) (by decide)
  have hstring : Passes ('"' :: (spec ++ ['"'])) := passes_quoted rfl hquote h.no_escape hline
  have hword : Passes ("@import".toList ++ [' ']) := ⟨by decide +kernel, by decide +kernel⟩
  have hend : Passes [';'] := ⟨rfl, rfl⟩
  have heq : importLine spec = "@import".toList ++ [' '] ++ '"' :: (spec ++ ['"']) ++ [';'] := by
    show "@import".toList ++ ([' '] ++ '"' :: (spec ++ ['"'])) ++ [';'] = _
    rw [List.append_assoc _ [' ']]
  rw [heq]
  exact (hword.append hstring).append hend

end CommentState

/-! ## Lines and statements -/

variable {d : Dialect}

theorem splitArguments_quoted {spec : List Char} (h : '"' ∉ spec) :
    splitArguments (' ' :: '"' :: (spec ++ ['"'])) = [' ' :: '"' :: (spec ++ ['"'])] := by
  have hin : argumentsFrom ⟨some '"', 0⟩ (spec ++ ['"']) = [spec ++ ['"']] :=
    argumentsFrom_quoted h rfl
  have hquoted : argumentsFrom .start ('"' :: (spec ++ ['"'])) = ['"' :: (spec ++ ['"'])] :=
    argumentsFrom_of_not_cuts rfl hin
  exact argumentsFrom_of_not_cuts rfl hquoted

theorem statementBody_importStatement {spec : List Char} (h : ∀ c ∈ spec, isBrace c = false) :
    statementBody (importStatement spec) = importStatement spec := by
  rw [statementBody, Text.afterLast_of_forall (forall_mem_importStatement h (by decide)),
    importStatement_eq]
  exact Text.trimWhile_cons_concat (by decide) (by decide) _

theorem directive?_importStatement (spec : List Char) :
    directive? (importStatement spec) = some (.atImport, ' ' :: '"' :: (spec ++ ['"'])) := by
  have hafter : Text.after? Directive.atImport.word (importStatement spec)
      = some (' ' :: '"' :: (spec ++ ['"'])) := Text.after?_eq_some_iff.2 rfl
  rw [directive?, Directive.all, List.findSome?_cons, hafter]
  rfl

/-- The statement of an import is understood. -/
theorem statementImports_import {spec : List Char} (h : Importable spec) :
    statementImports (importStatement spec) = [spec] := by
  have hquote : '"' ∉ spec := fun hc => absurd (h.no_quote _ hc) (by decide)
  have hstarts : startsArguments (' ' :: '"' :: (spec ++ ['"'])) = true := by
    show (Text.isBlank ' ' || isQuote ' ') = true
    decide
  have himports : imports .atImport spec = true := by
    simp [imports, h.not_remote, h.not_builtIn, h.not_css]
  have hargument : leadingQuoted? (Text.trim (' ' :: '"' :: (spec ++ ['"']))) = some spec := by
    rw [trim_blank_cons (by decide) (by decide) (by decide), leadingQuoted?_quoted rfl hquote]
  calc statementImports (importStatement spec)
      = directiveImports .atImport (' ' :: '"' :: (spec ++ ['"'])) := by
        rw [statementImports, statementBody_importStatement h.no_brace, directive?_importStatement]
        simp only [hstarts, if_true]
    _ = ([' ' :: '"' :: (spec ++ ['"'])].filterMap fun a => leadingQuoted? (Text.trim a)).filter
          (imports .atImport) := by
        rw [directiveImports, argumentsOf, if_pos rfl, splitArguments_quoted hquote]
    _ = [spec] := by simp [hargument, himports]

/-- The scanner finds in a plain line what the line imports, and goes on after it. -/
theorem reads_plainLine {line : List Char} (h : PlainLine line) (hline : '\n' ∉ line)
    (rest : List Char) : reads d (line ++ rest) = (lineImport? line).toList ++ reads d rest := by
  cases h with
  | @importing spec h =>
      have hends : ∀ c ∈ importStatement spec, endsStatement d c = false := by
        refine forall_mem_importStatement (fun c hc => ?_) (by cases d <;> decide)
        have hsemicolon : c ≠ ';' := fun he => h.no_semicolon (he ▸ hc)
        have hfeed : c ≠ '\n' := fun he => hline (by simp [importLine_eq, he ▸ hc])
        simp [endsStatement, hsemicolon, hfeed]
      have heq : importLine spec ++ rest = importStatement spec ++ ';' :: rest := by
        rw [importLine, List.append_assoc, List.singleton_append]
      calc reads d (importLine spec ++ rest)
          = reads d (importStatement spec) ++ reads d rest := by
            rw [heq, reads_append_of_ends d (by simp [endsStatement])]
        _ = [spec] ++ reads d rest := by rw [reads_of_no_ends d hends, statementImports_import h]
        _ = (lineImport? (importLine spec)).toList ++ reads d rest := by
            rw [lineImport?_importLine]
            rfl
  | blank h =>
      rw [lineImport?_of_no_mark fun c hc => isMark_of_isBlank (h c hc), inert_blank h]
      rfl
  | closing h hlast =>
      have hat : '@' ∉ line := fun hc => absurd (h _ hc) (by decide)
      have hinert : Inert d line := @inert_of_no_at d [] line (by simp) hat hlast
      rw [lineImport?_of_no_mark h, hinert]
      rfl

/-! ## Stylesheets -/

/-- Lines as they are written one after the other, each with its end; the last one may have
none. -/
inductive Written : List (List Char) → List Char → Prop
  | nothing : Written [] []
  | last {line : List Char} (hfeed : '\n' ∉ line) : Written [line] line
  | line {line back : List Char} {lines : List (List Char)} {rest : List Char}
      (hfeed : '\n' ∉ line) (hback : ∀ c ∈ back, c = '\r') (more : Written lines rest) :
      Written (line :: lines) (line ++ (back ++ '\n' :: rest))

/-- A line and the carriage return after it. -/
theorem exists_dropLastIf (a : Char) (p : List Char) :
    ∃ back, p = Text.dropLastIf a p ++ back ∧ ∀ c ∈ back, c = a := by
  unfold Text.dropLastIf
  split
  · next h =>
      obtain ⟨before, rfl⟩ := List.getLast?_eq_some_iff.1 h
      exact ⟨[a], by simp, by simp⟩
  · exact ⟨[], by simp, by simp⟩

/-- Pieces between line feeds are written as lines, except for an empty last one. -/
theorem written_join {ended : List (List Char)} {last : List Char}
    (hfeed : ∀ p ∈ ended ++ [last], '\n' ∉ p) :
    Written (ended.map (Text.dropLastIf '\r') ++ if last = [] then [] else [last])
      (Text.join '\n' (ended ++ [last])) := by
  induction ended with
  | nil =>
      by_cases hlast : last = []
      · rw [if_pos hlast, hlast]
        exact .nothing
      · rw [if_neg hlast]
        exact .last (hfeed last (by simp))
  | cons p ended ih =>
      obtain ⟨back, hback, hreturn⟩ := exists_dropLastIf '\r' p
      have hnot : '\n' ∉ Text.dropLastIf '\r' p := by
        intro hc
        have hin := List.mem_append_left back hc
        rw [← hback] at hin
        exact hfeed p (by simp) hin
      have hrest := ih fun q hq => hfeed q (List.mem_cons_of_mem p hq)
      have hw := Written.line hnot hreturn hrest
      rw [← List.append_assoc, ← hback] at hw
      rw [List.cons_append, Text.join_cons_of_ne_nil _ _ (by simp)]
      exact hw

/-- A text is its lines as they are written. -/
theorem written_lines (source : List Char) : Written (Text.lines source) source := by
  have hsep : (fun c => decide (c = '\n')) = (· == '\n') := by
    funext c
    rw [Bool.beq_eq_decide_eq]
  obtain ⟨ended, last, hpieces⟩ :=
    (Text.pieces (· == '\n') source).eq_nil_or_concat'.resolve_left (Text.pieces_ne_nil _ _)
  have hfeed : ∀ p ∈ ended ++ [last], '\n' ∉ p := by
    intro p hp hc
    have hsep := Text.not_sep_of_mem_pieces (hpieces ▸ hp) hc
    simp at hsep
  have hlines : Text.lines source
      = ended.map (Text.dropLastIf '\r') ++ if last = [] then [] else [last] := by
    rw [Text.lines, Text.linesBy, hsep, hpieces, List.reverse_append]
    simp
  have hsource : Text.join '\n' (ended ++ [last]) = source := hpieces ▸ Text.join_pieces '\n' source
  rw [hlines, ← hsource]
  exact written_join hfeed

theorem isBlank_lineEnd {back : List Char} (hback : ∀ c ∈ back, c = '\r') :
    ∀ c ∈ back ++ ['\n'], Text.isBlank c = true := by
  intro c hc
  rcases List.mem_append.1 hc with hc | hc
  · rw [hback c hc]
    decide
  · rw [List.mem_singleton.1 hc]
    decide

/-- Comments cannot hide in plain lines. -/
theorem passes_of_written {lines : List (List Char)} {source : List Char}
    (hw : Written lines source) (h : ∀ line ∈ lines, PlainLine line) :
    CommentState.Passes source := by
  have hline : ∀ line, PlainLine line → '\n' ∉ line → CommentState.Passes line := by
    intro line hplain hnot
    rcases hplain.cases with ⟨spec, hspec, rfl⟩ | hmark
    · exact CommentState.passes_importLine hspec fun hc => hnot (by simp [importLine_eq, hc])
    · exact CommentState.passes_of_no_mark hmark
  induction hw with
  | nothing => exact ⟨rfl, rfl⟩
  | @last line hfeed => exact hline line (h line (by simp)) hfeed
  | @line line back lines rest hfeed hback more ih =>
      have hfirst := hline line (h line (by simp)) hfeed
      have hend : CommentState.Passes (back ++ ['\n']) :=
        CommentState.passes_of_no_mark fun c hc => isMark_of_isBlank (isBlank_lineEnd hback c hc)
      have hrest := ih fun l hl => h l (List.mem_cons_of_mem line hl)
      have hall := hfirst.append (hend.append hrest)
      rwa [List.append_assoc, List.singleton_append] at hall

/-- Lines are read one by one. -/
theorem reads_of_written {lines : List (List Char)} {source : List Char}
    (hw : Written lines source) (h : ∀ line ∈ lines, PlainLine line) :
    reads d source = lines.filterMap lineImport? := by
  induction hw with
  | nothing => exact reads_nil d
  | @last line hfeed =>
      have hread := @reads_plainLine d line (h line (by simp)) hfeed []
      rw [List.append_nil, reads_nil, List.append_nil] at hread
      rw [hread, List.filterMap_cons]
      cases lineImport? line <;> rfl
  | @line line back lines rest hfeed hback more ih =>
      have hend : Inert d (back ++ ['\n']) := inert_blank (isBlank_lineEnd hback)
      have hrest := hend rest
      rw [List.append_assoc, List.singleton_append] at hrest
      rw [reads_plainLine (h line (by simp)) hfeed, hrest,
        ih fun l hl => h l (List.mem_cons_of_mem line hl), List.filterMap_cons]
      cases lineImport? line <;> rfl

/-- **The scanner finds in a plain stylesheet what its lines import.** -/
theorem importsOf_eq_lineImports {source : List Char}
    (h : ∀ line ∈ Text.lines source, PlainLine line) : importsOf d source = lineImports source := by
  have hpasses := passes_of_written (written_lines source) h
  have hstrip : stripComments source = source := by
    rw [stripComments, strip, hpasses.1, hpasses.2]
    exact List.append_nil source
  calc importsOf d source
      = reads d (stripComments source) := rfl
    _ = reads d source := by rw [hstrip]
    _ = lineImports source := reads_of_written (written_lines source) h

def importSpecs (source : String) : List String := (lineImports source.toList).map String.ofList

/-- A stylesheet of plain lines, or plain CSS that has no line with an import. -/
def PlainSheet (d : Dialect) (source : String) : Prop :=
  if d = .css then ∀ line ∈ Text.lines source.toList, lineImport? line = none
  else ∀ line ∈ Text.lines source.toList, PlainLine line

instance (d : Dialect) (source : String) : Decidable (PlainSheet d source) :=
  inferInstanceAs (Decidable (if d = .css then _ else _))

theorem PlainSheet.scanImports {d : Dialect} {source : String} (h : PlainSheet d source)
    (hd : d ≠ .css) : scanImports source d = importSpecs source := by
  rw [PlainSheet, if_neg hd] at h
  rw [Scan.scanImports, importsOf_eq_lineImports h, importSpecs]

theorem PlainSheet.importSpecs_css {source : String} (h : PlainSheet .css source) :
    importSpecs source = [] := by
  rw [PlainSheet, if_pos rfl] at h
  rw [importSpecs, lineImports, List.filterMap_eq_nil_iff.2 h]
  rfl

end Stylesheet.Scan
