import Stylesheet.Proofs.Scan.Reading

set_option autoImplicit false

/-! # Printed stylesheets

A stylesheet printed from its directives, with blanks, comments and rules between them, is scanned
back to the specifiers of its directives (`scanImports_print`). A printed stylesheet is a list of
parts, and a part cannot be built unless it can be printed: a specifier holds nothing that ends a
string, a statement or a block (`Specifier`), and a comment is complete (`Part`).

A part is dealt with twice. The comments are left out of it (`Part.output_print`), and what is
left is read, whatever follows it (`Part.reads_stripped`).
-/

namespace Stylesheet.Scan

/-! ## Stylesheets to print -/

/-- A character of a specifier. It may be that of a comment, a comma or a parenthesis. -/
def isSpecifierChar (c : Char) : Bool :=
  !(isQuote c || isBrace c || c == ';' || c == '\\' || c == '\n')

/-- A specifier that can be printed between quotes of either kind, as it holds no quote, backslash
or line end, and neither a semicolon nor a brace. -/
structure Specifier where
  chars : List Char
  plain : ∀ c ∈ chars, isSpecifierChar c = true

inductive QuoteMark
  | double
  | single
deriving DecidableEq, Repr

def QuoteMark.char : QuoteMark → Char
  | double => '"'
  | single => '\''

structure Argument where
  quote : QuoteMark
  spec : Specifier

def Argument.print (a : Argument) : List Char :=
  a.quote.char :: (a.spec.chars ++ [a.quote.char])

structure Statement where
  directive : Directive
  first : Argument
  more : List Argument
  alone : directive ≠ .atImport → more = []

namespace Statement

def printArguments (first : Argument) (more : List Argument) : List Char :=
  first.print ++ more.flatMap fun a => ',' :: ' ' :: a.print

def print (s : Statement) : List Char :=
  s.directive.word ++ ' ' :: printArguments s.first s.more

end Statement

/-- How a statement may end: with a semicolon, and by indentation also with the line. -/
def endings (d : Dialect) : List (List Char) :=
  if d = .indented then [['\n'], [';', '\n'], [';']] else [[';']]

def isWordChar (c : Char) : Bool :=
  !(isQuote c || isBrace c || c == ';' || c == '@' || c == '/')

structure Rule where
  selector : List Char
  name : List Char
  value : List Char
  plain : ∀ c ∈ selector ++ name ++ value, isWordChar c = true

def Rule.print (r : Rule) : List Char :=
  r.selector ++ [' ', '\x7b', ' '] ++ r.name ++ [':', ' '] ++ r.value ++ [';', ' ', '\x7d']

inductive Part (d : Dialect)
  | statement (s : Statement) (ending : List Char) (h : ending ∈ endings d)
  | blank (cs : List Char) (h : ∀ c ∈ cs, Text.isBlank c = true)
  | blockComment (body : List Char) (h : ¬ ['*', '/'] <:+: body)
  | lineComment (body : List Char) (h : '\n' ∉ body)
  | rule (r : Rule) (h : d ≠ .indented)

namespace Part

variable {d : Dialect}

def print : Part d → List Char
  | statement s ending _ => s.print ++ ending
  | blank cs _ => cs
  | blockComment body _ => '/' :: '*' :: (body ++ ['*', '/'])
  | lineComment body _ => '/' :: '/' :: (body ++ ['\n'])
  | rule r _ => r.print

def stripped : Part d → List Char
  | statement s ending _ => s.print ++ ending
  | blank cs _ => cs
  | blockComment body _ => body.filter (· == '\n')
  | lineComment _ _ => ['\n']
  | rule r _ => r.print

end Part

/-! ## Specifiers that count -/

/-- Whether a directive imports what a specifier names: not what is on the network, not a module
of the language, and not plain CSS under `@import`. -/
def Wanted (d : Directive) (spec : List Char) : Prop :=
  (∀ scheme ∈ ["http://", "https://", "//", "sass:"], ¬ scheme.toList <+: spec) ∧
    (d = .atImport → ¬ ".css".toList <:+ spec)

instance (d : Directive) (spec : List Char) : Decidable (Wanted d spec) :=
  inferInstanceAs (Decidable (_ ∧ (_ → _)))

theorem imports_iff (d : Directive) (spec : List Char) : imports d spec = true ↔ Wanted d spec := by
  have hschemes : (∀ scheme ∈ ["http://", "https://", "//", "sass:"], ¬ scheme.toList <+: spec) ↔
      isRemote spec = false ∧ isBuiltIn spec = false := by
    simp [isRemote, isBuiltIn, ← Bool.not_eq_true, List.isPrefixOf_iff_prefix, and_assoc]
  have hcss : (d = .atImport → ¬ ".css".toList <:+ spec) ↔
      (d = .atImport && isPlainCss spec) = false := by
    simp [isPlainCss, ← Bool.not_eq_true, List.isSuffixOf_iff_suffix]
  rw [Wanted, hschemes, hcss]
  simp [imports, and_assoc, imp_iff_not_or]

def Statement.specifiers (s : Statement) : List (List Char) :=
  ((s.first :: s.more).map (·.spec.chars)).filter fun spec => Wanted s.directive spec

def Part.specifiers {d : Dialect} : Part d → List (List Char)
  | .statement s _ _ => s.specifiers
  | _ => []

/-! ## Characters of what is printed -/

theorem QuoteMark.isQuote_char (q : QuoteMark) : isQuote q.char = true := by
  cases q <;> rfl

theorem QuoteMark.isBlank_char (q : QuoteMark) : Text.isBlank q.char = false := by
  cases q <;> rfl

theorem Specifier.not_mem {spec : Specifier} {c : Char} (hc : isSpecifierChar c = false) :
    c ∉ spec.chars := by
  intro hmem
  rw [spec.plain c hmem] at hc
  cases hc

theorem Argument.quote_not_mem (a : Argument) : a.quote.char ∉ a.spec.chars :=
  Specifier.not_mem (by simp [isSpecifierChar, a.quote.isQuote_char])

/-- What no character is that a directive is printed with. -/
theorem Statement.forall_mem_print {p : Char → Bool} (s : Statement)
    (hspec : ∀ c, isSpecifierChar c = true → p c = false)
    (hword : ∀ d : Directive, d.word.any p = false)
    (hmark : [' ', ',', '"', '\''].any p = false) : ∀ c ∈ s.print, p c = false := by
  rw [any_eq_false_iff] at hmark
  have harg : ∀ a : Argument, ∀ c ∈ a.print, p c = false := by
    intro a c hc
    have hquote : p a.quote.char = false := hmark _ (by cases a.quote <;> simp [QuoteMark.char])
    simp only [Argument.print, List.mem_cons, List.mem_append, List.not_mem_nil, or_false] at hc
    rcases hc with rfl | hc | rfl
    · exact hquote
    · exact hspec c (a.spec.plain c hc)
    · exact hquote
  intro c hc
  simp only [Statement.print, Statement.printArguments, List.mem_append, List.mem_cons,
    List.mem_flatMap] at hc
  rcases hc with hc | rfl | hc | ⟨a, -, rfl | rfl | hc⟩
  · exact any_eq_false_iff.1 (hword s.directive) c hc
  · exact hmark _ (by simp)
  · exact harg _ c hc
  · exact hmark _ (by simp)
  · exact hmark _ (by simp)
  · exact harg _ c hc

/-! ## Comments -/

namespace CommentState

theorem passes_argument (a : Argument) : Passes a.print :=
  passes_quoted a.quote.isQuote_char a.quote_not_mem (Specifier.not_mem (by decide))
    (Specifier.not_mem (by decide))

theorem passes_statement (s : Statement) : Passes s.print := by
  have hword : Passes (s.directive.word ++ [' ']) := by
    cases s.directive <;> exact ⟨by decide +kernel, by decide +kernel⟩
  have hmore : Passes (s.more.flatMap fun a => ',' :: ' ' :: a.print) := by
    induction s.more with
    | nil => exact ⟨rfl, rfl⟩
    | cons a more ih =>
        have hcomma : Passes [',', ' '] := ⟨rfl, rfl⟩
        exact (hcomma.append (passes_argument a)).append ih
  have hall := hword.append ((passes_argument s.first).append hmore)
  rwa [List.append_assoc] at hall

theorem passes_rule (r : Rule) : Passes r.print := by
  have hplain : ∀ cs : List Char, cs.any (fun c => isQuote c || c == '/') = false → Passes cs := by
    intro cs h
    rw [any_eq_false_iff] at h
    exact passes_of_plain fun c hc => by simpa using h c hc
  have hword : ∀ cs : List Char, (∀ c ∈ cs, isWordChar c = true) → Passes cs := by
    intro cs h
    refine passes_of_plain fun c hc => ?_
    have hc := h c hc
    simp only [isWordChar, Bool.not_eq_true', Bool.or_eq_false_iff, beq_eq_false_iff_ne] at hc
    exact ⟨hc.1.1.1.1, hc.2⟩
  have hwords := r.plain
  simp only [List.mem_append] at hwords
  have hselector := hword r.selector fun c hc => hwords c (Or.inl (Or.inl hc))
  have hname := hword r.name fun c hc => hwords c (Or.inl (Or.inr hc))
  have hvalue := hword r.value fun c hc => hwords c (Or.inr hc)
  have hstart := hselector.append (hplain [' ', '\x7b', ' '] (by decide))
  have hmiddle := (hstart.append hname).append (hplain [':', ' '] (by decide))
  exact (hmiddle.append hvalue).append (hplain [';', ' ', '\x7d'] (by decide))

/-- Of a block comment only its line ends are let through, as long as nothing closes it. `starred`
tells whether a star stands before `body`, which then must not close the comment. -/
theorem output_blockComment_open {starred : Bool} {body : List Char} (h : ¬ ['*', '/'] <:+: body)
    (hfirst : starred = true → body.head? ≠ some '/') :
    (blockComment starred).output body = body.filter (· == '\n') ∧
      ∃ starred', (blockComment starred).after body = blockComment starred' := by
  induction body generalizing starred with
  | nil => exact ⟨rfl, starred, rfl⟩
  | cons c body ih =>
      obtain ⟨hhead, htail⟩ := not_or.1 (mt List.infix_cons_iff.2 h)
      have hnext : (blockComment starred).next c = blockComment (c = '*') := by
        have hopen : (starred && c = '/') = false := by
          cases starred
          · rfl
          · simpa using hfirst rfl
        rw [next, hopen, if_neg Bool.false_ne_true]
      have hsecond : decide (c = '*') = true → body.head? ≠ some '/' := by
        intro hstar hslash
        obtain ⟨rest, rfl⟩ := List.head?_eq_some_iff.1 hslash
        rw [of_decide_eq_true hstar] at hhead
        exact hhead ⟨rest, rfl⟩
      obtain ⟨hout, hafter⟩ := ih htail hsecond
      constructor
      · rw [output, hnext, hout]
        by_cases hline : c = '\n' <;> simp [emits, hline]
      · rw [after_cons, hnext]
        exact hafter

theorem output_blockComment {starred : Bool} {body : List Char} (h : ¬ ['*', '/'] <:+: body)
    (hfirst : starred = true → body.head? ≠ some '/') :
    (blockComment starred).output (body ++ ['*', '/']) = body.filter (· == '\n') ∧
      (blockComment starred).after (body ++ ['*', '/']) = plain := by
  obtain ⟨hout, starred', hafter⟩ := output_blockComment_open h hfirst
  constructor
  · rw [output_append, hout, hafter]
    cases starred' <;> simp [output, emits, next]
  · rw [after_append, hafter]
    cases starred' <;> rfl

/-- Of a line comment nothing is let through, as long as nothing ends the line. -/
theorem output_lineComment_open {body : List Char} (h : '\n' ∉ body) :
    lineComment.output body = [] ∧ lineComment.after body = lineComment := by
  induction body with
  | nil => exact ⟨rfl, rfl⟩
  | cons c body ih =>
      simp only [List.mem_cons, not_or] at h
      have hnext : lineComment.next c = lineComment := by simp [next, Ne.symm h.1]
      obtain ⟨hout, hafter⟩ := ih h.2
      constructor
      · rw [output, hnext, hout]
        simp [emits, Ne.symm h.1]
      · rw [after_cons, hnext, hafter]

/-- Of a line comment its end is left. -/
theorem output_lineComment {body : List Char} (h : '\n' ∉ body) :
    lineComment.output (body ++ ['\n']) = ['\n'] ∧
      lineComment.after (body ++ ['\n']) = plain := by
  obtain ⟨hout, hafter⟩ := output_lineComment_open h
  constructor
  · rw [output_append, hout, hafter]
    rfl
  · rw [after_append, hafter]
    rfl

end CommentState

variable {d : Dialect}

theorem isBlank_ne_mark {c : Char} (h : Text.isBlank c = true) : isQuote c = false ∧ c ≠ '/' := by
  constructor
  · rw [← Bool.not_eq_true]
    intro hq
    simp only [isQuote, Bool.or_eq_true, beq_iff_eq] at hq
    rcases hq with rfl | rfl <;> exact absurd h (by decide)
  · rintro rfl
    exact absurd h (by decide)

/-- An ending is the end of a statement and blanks. -/
theorem ending_eq_cons {ending : List Char} (h : ending ∈ endings d) : ∃ c blanks,
    ending = c :: blanks ∧ endsStatement d c = true ∧ ∀ b ∈ blanks, Text.isBlank b = true := by
  unfold endings at h
  split at h
  · next hd =>
      simp only [List.mem_cons, List.not_mem_nil, or_false] at h
      subst hd
      rcases h with rfl | rfl | rfl
      · exact ⟨'\n', [], rfl, rfl, by simp⟩
      · exact ⟨';', ['\n'], rfl, rfl, List.forall_mem_singleton.2 (by decide)⟩
      · exact ⟨';', [], rfl, rfl, by simp⟩
  · rw [List.mem_singleton.1 h]
    exact ⟨';', [], rfl, rfl, by simp⟩

/-- The comments are left out of a part, and nothing else is. -/
theorem Part.output_print (p : Part d) : CommentState.plain.output p.print = p.stripped ∧
    CommentState.plain.after p.print = .plain := by
  cases p with
  | statement s ending h =>
      have hending : CommentState.Passes ending := by
        unfold endings at h
        split at h
        · simp only [List.mem_cons, List.not_mem_nil, or_false] at h
          rcases h with rfl | rfl | rfl <;> exact ⟨rfl, rfl⟩
        · rw [List.mem_singleton.1 h]
          exact ⟨rfl, rfl⟩
      exact (CommentState.passes_statement s).append hending
  | blank cs h => exact CommentState.passes_of_plain fun c hc => isBlank_ne_mark (h c hc)
  | blockComment body h => exact CommentState.output_blockComment h (by simp)
  | lineComment body h => exact CommentState.output_lineComment h
  | rule r h => exact CommentState.passes_rule r

/-! ## Statements -/

theorem argumentsFrom_argument (a : Argument) {rest p : List Char} {ps : List (List Char)}
    (h : argumentsFrom .start rest = p :: ps) :
    argumentsFrom .start (' ' :: (a.print ++ rest)) = (' ' :: (a.print ++ p)) :: ps := by
  have hblank : ArgumentState.start.next ' ' = .start := rfl
  have hcuts : ArgumentState.start.cuts a.quote.char = false := by cases a.quote <;> rfl
  have hquote : ArgumentState.start.next a.quote.char = ⟨some a.quote.char, 0⟩ := by
    cases a.quote <;> rfl
  have hprint : ∀ cs : List Char, a.print ++ cs
      = a.quote.char :: (a.spec.chars ++ a.quote.char :: cs) := by
    intro cs
    simp [Argument.print]
  have hin : argumentsFrom .start (a.print ++ rest) = (a.print ++ p) :: ps := by
    rw [hprint, hprint]
    exact argumentsFrom_of_not_cuts hcuts (hquote ▸ argumentsFrom_quoted a.quote_not_mem h)
  exact argumentsFrom_of_not_cuts rfl (hblank ▸ hin)

/-- The arguments of a directive are found again. -/
theorem splitArguments_print (first : Argument) (more : List Argument) :
    splitArguments (' ' :: Statement.printArguments first more)
      = (first :: more).map fun a => ' ' :: a.print := by
  unfold splitArguments Statement.printArguments
  induction more generalizing first with
  | nil =>
      have hend : argumentsFrom .start [] = [[]] := rfl
      rw [List.flatMap_nil, argumentsFrom_argument first hend]
      simp
  | cons a more ih =>
      have hcomma : argumentsFrom .start (',' :: (' ' :: (a.print
            ++ more.flatMap fun a => ',' :: ' ' :: a.print)))
          = [] :: (a :: more).map fun a => ' ' :: a.print := by
        rw [argumentsFrom, if_pos (by decide)]
        exact congrArg _ (ih a)
      rw [List.flatMap_cons, List.cons_append, List.cons_append,
        argumentsFrom_argument first hcomma]
      simp

theorem leadingQuoted?_argument (a : Argument) :
    leadingQuoted? (Text.trim (' ' :: a.print)) = some a.spec.chars := by
  have hblank := a.quote.isBlank_char
  rw [Argument.print, trim_blank_cons (by decide) hblank hblank,
    leadingQuoted?_quoted a.quote.isQuote_char a.quote_not_mem]

/-- The arguments of a directive are read as its specifiers. -/
theorem argumentsOf_print (s : Statement) :
    argumentsOf s.directive (' ' :: Statement.printArguments s.first s.more)
      = (s.first :: s.more).map fun a => ' ' :: a.print := by
  by_cases h : s.directive = .atImport
  · rw [argumentsOf, if_pos h, splitArguments_print]
  · rw [argumentsOf, if_neg h, s.alone h, Statement.printArguments]
    simp

theorem exists_print_eq_concat (s : Statement) : ∃ cs c,
    s.print = '@' :: (cs ++ [c]) ∧ Text.isBlank c = false := by
  have hargs : ∃ cs c, Statement.printArguments s.first s.more = cs ++ [c]
      ∧ Text.isBlank c = false := by
    rcases s.more.eq_nil_or_concat' with hmore | ⟨more, a, hmore⟩
    · refine ⟨s.first.quote.char :: s.first.spec.chars, s.first.quote.char, ?_,
        s.first.quote.isBlank_char⟩
      simp [hmore, Statement.printArguments, Argument.print]
    · refine ⟨s.first.print ++ more.flatMap (fun a => ',' :: ' ' :: a.print)
        ++ ',' :: ' ' :: a.quote.char :: a.spec.chars, a.quote.char, ?_, a.quote.isBlank_char⟩
      simp [hmore, Statement.printArguments, Argument.print]
  obtain ⟨cs, c, hargs, hc⟩ := hargs
  obtain ⟨word, hword⟩ : ∃ word, s.directive.word = '@' :: word := by
    cases s.directive <;> exact ⟨_, rfl⟩
  refine ⟨word ++ ' ' :: cs, c, ?_, hc⟩
  calc s.print
      = '@' :: word ++ ' ' :: (cs ++ [c]) := by rw [Statement.print, hargs, hword]
    _ = '@' :: (word ++ ' ' :: cs ++ [c]) := by
        rw [List.cons_append, List.append_assoc, List.cons_append]

theorem statementBody_print (s : Statement) : statementBody s.print = s.print := by
  have hbrace : ∀ c ∈ s.print, isBrace c = false :=
    s.forall_mem_print (by simp +contextual [isSpecifierChar])
      (fun d => by cases d <;> decide +kernel) (by decide)
  obtain ⟨cs, c, hprint, hc⟩ := exists_print_eq_concat s
  rw [statementBody, Text.afterLast_of_forall hbrace, hprint]
  exact Text.trimWhile_cons_concat (by decide) hc cs

theorem directive?_word (d : Directive) (cs : List Char) :
    directive? (d.word ++ ' ' :: cs) = some (d, ' ' :: cs) := by
  cases d <;> rfl

/-- A printed directive is understood. -/
theorem statementImports_print (s : Statement) : statementImports s.print = s.specifiers := by
  have hdirective : directive? s.print
      = some (s.directive, ' ' :: Statement.printArguments s.first s.more) :=
    directive?_word s.directive _
  have hstarts : startsArguments (' ' :: Statement.printArguments s.first s.more) = true := by
    show (Text.isBlank ' ' || isQuote ' ') = true
    decide
  have hread : ∀ args : List Argument, (args.map fun a => ' ' :: a.print).filterMap
      (fun a => leadingQuoted? (Text.trim a)) = args.map (·.spec.chars) := by
    intro args
    simp [List.filterMap_map, leadingQuoted?_argument]
  have hfilter : ∀ specs : List (List Char), specs.filter (imports s.directive)
      = specs.filter fun spec => Wanted s.directive spec := by
    intro specs
    refine List.filter_congr fun spec _ => ?_
    rw [Bool.eq_iff_iff, imports_iff, decide_eq_true_iff]
  calc statementImports s.print
      = directiveImports s.directive (' ' :: Statement.printArguments s.first s.more) := by
        rw [statementImports, statementBody_print, hdirective]
        simp only [hstarts, if_true]
    _ = ((s.first :: s.more).map (·.spec.chars)).filter (imports s.directive) := by
        rw [directiveImports, argumentsOf_print, hread]
    _ = s.specifiers := by rw [hfilter, Statement.specifiers]

/-- What is left of a part is read, whatever follows it. -/
theorem Part.reads_stripped (p : Part d) (rest : List Char) :
    reads d (p.stripped ++ rest) = p.specifiers ++ reads d rest := by
  cases p with
  | statement s ending h =>
      obtain ⟨c, blanks, rfl, hc, hblank⟩ := ending_eq_cons h
      have hends : ∀ c ∈ s.print, endsStatement d c = false :=
        s.forall_mem_print (by simp +contextual [isSpecifierChar, endsStatement])
          (fun w => by cases w <;> cases d <;> decide +kernel) (by cases d <;> decide)
      have heq : (Part.statement s (c :: blanks) h).stripped ++ rest
          = s.print ++ c :: (blanks ++ rest) := by
        rw [stripped, List.append_assoc, List.cons_append]
      calc reads d ((Part.statement s (c :: blanks) h).stripped ++ rest)
          = reads d s.print ++ reads d (blanks ++ rest) := by rw [heq, reads_append_of_ends d hc]
        _ = statementImports s.print ++ reads d rest := by
            rw [reads_of_no_ends d hends, inert_blank hblank]
        _ = s.specifiers ++ reads d rest := by rw [statementImports_print]
  | blank cs h => exact inert_blank h rest
  | blockComment body h =>
      refine inert_blank (fun c hc => ?_) rest
      obtain rfl : c = '\n' := by simpa using (List.mem_filter.1 hc).2
      decide
  | lineComment body h =>
      exact inert_blank (List.forall_mem_singleton.2 (by decide)) rest
  | rule r h =>
      have hat : '@' ∉ r.print := by
        intro hmem
        have hwords : '@' ∉ r.selector ++ r.name ++ r.value :=
          fun hw => absurd (r.plain _ hw) (by decide)
        simp only [List.mem_append, not_or] at hwords
        simp [Rule.print, hwords] at hmem
      have hlast : r.print.getLast? = some '\x7d' := by
        rw [Rule.print, List.getLast?_append_of_ne_nil _ (by simp)]
        rfl
      exact @inert_of_no_at d [] r.print (by simp) hat (Or.inr hlast) rest

/-! ## Stylesheets -/

/-- The comments are left out of a stylesheet part by part. -/
theorem output_flatMap_print (sheet : List (Part d)) :
    CommentState.plain.output (sheet.flatMap Part.print) = sheet.flatMap Part.stripped ∧
      CommentState.plain.after (sheet.flatMap Part.print) = .plain := by
  induction sheet with
  | nil => exact ⟨rfl, rfl⟩
  | cons p sheet ih =>
      obtain ⟨hout, hafter⟩ := p.output_print
      constructor
      · calc CommentState.plain.output (p.print ++ sheet.flatMap Part.print)
            = CommentState.plain.output p.print
                ++ (CommentState.plain.after p.print).output (sheet.flatMap Part.print) :=
              CommentState.output_append _ _ _
          _ = p.stripped ++ sheet.flatMap Part.stripped := by rw [hout, hafter, ih.1]
      · rw [List.flatMap_cons, CommentState.after_append, hafter, ih.2]

/-- A stylesheet is read part by part. -/
theorem reads_flatMap_stripped (sheet : List (Part d)) :
    reads d (sheet.flatMap Part.stripped) = sheet.flatMap Part.specifiers := by
  induction sheet with
  | nil => exact reads_nil d
  | cons p sheet ih => rw [List.flatMap_cons, p.reads_stripped, ih, List.flatMap_cons]

/-- **The scanner undoes the printer**: in a printed stylesheet it finds the specifiers that count
of the printed directives, in their order, and nothing else. -/
theorem scanImports_print (sheet : List (Part d)) :
    scanImports (String.ofList (sheet.flatMap Part.print)) d
      = (sheet.flatMap Part.specifiers).map String.ofList := by
  obtain ⟨hout, hafter⟩ := output_flatMap_print sheet
  have hstrip : stripComments (sheet.flatMap Part.print) = sheet.flatMap Part.stripped := by
    rw [stripComments, strip, hout, hafter]
    exact List.append_nil _
  rw [scanImports, String.toList_ofList]
  refine congrArg (List.map String.ofList) ?_
  calc importsOf d (sheet.flatMap Part.print)
      = reads d (stripComments (sheet.flatMap Part.print)) := rfl
    _ = reads d (sheet.flatMap Part.stripped) := by rw [hstrip]
    _ = sheet.flatMap Part.specifiers := reads_flatMap_stripped sheet

end Stylesheet.Scan
