import Stylesheet.Proofs.Scan.Bodies

set_option autoImplicit false

/-! # Separators in strings

The scanner cuts a stylesheet at every semicolon and at every brace, also where they stand in a
string. To tell what that does, the separators in the strings of a stylesheet are covered
(`veilStrings`) and what is found before and after is compared. A string would be opaque to the
scanner if that made no difference.

A stylesheet without its comments is kept together with what stands in a string (`Shaded`). Its
statements are then cut as if strings were opaque (`wholeStatements`), and in each of them the
scanner, for which they are not, finds three things: what the body imports up to the first
separator in a string (`heard`), and what is imported in front of the body and behind that
separator (`stray`). Strings are opaque if nothing is stray and nothing is left unheard, and
otherwise only by chance (`scanImports_veilStrings_iff`).
-/

namespace Stylesheet.Scan

/-! ## Covered separators -/

def isSeparator (c : Char) : Bool := c == ';' || isBrace c

/-- What covers a character: a letter for what separates statements, and otherwise the character
itself. -/
def veilChar (c : Char) : Char := if isSeparator c then 'x' else c

namespace CommentState

/-- Whether a reader of a stylesheet stands in a string. -/
def inString : CommentState → Bool
  | quoted _ => true
  | escaped _ => true
  | _ => false

/-- A character with its cover, if it stands in a string. -/
def veil (s : CommentState) (c : Char) : Char := if s.inString then veilChar c else c

end CommentState

/-- A text with the separators in its strings covered, read from a given state. -/
def veil : CommentState → List Char → List Char
  | _, [] => []
  | s, c :: cs => s.veil c :: veil (s.next c) cs

/-- A stylesheet with the separators in its strings covered. -/
def veilStrings (source : String) : String := String.ofList (veil .plain source.toList)

def veilSpecifier (spec : String) : String := String.ofList (spec.toList.map veilChar)

/-! ## Shaded texts -/

/-- A character of a stylesheet without its comments. -/
structure Shaded where
  char : Char
  inString : Bool
deriving DecidableEq, Repr

namespace Shaded

def veiled (a : Shaded) : Char := if a.inString then veilChar a.char else a.char

/-- Whether a character ends a statement for whom strings are opaque. -/
def ends (a : Shaded) : Bool := !a.inString && a.char == ';'

/-- Whether a character is a brace for whom strings are opaque. -/
def brace (a : Shaded) : Bool := !a.inString && isBrace a.char

end Shaded

/-- A text without comments, read from a given state, and what of it stands in a string. -/
def shade : CommentState → List Char → List Shaded
  | s, [] => s.atEnd.map fun c => ⟨c, false⟩
  | s, c :: cs => (s.emits c).map (fun e => ⟨e, s.inString⟩) ++ shade (s.next c) cs

def bare (as : List Shaded) : List Char := as.map Shaded.char

/-- A shaded text with the separators in its strings covered. -/
def covered (as : List Shaded) : List Char := as.map Shaded.veiled

/-- The text that is shaded is the one without comments. -/
theorem bare_shade (s : CommentState) (cs : List Char) : bare (shade s cs) = strip s cs := by
  have hbare : ∀ (cs : List Char) (b : Bool), (cs.map fun c => (⟨c, b⟩ : Shaded)).map Shaded.char
      = cs := by simp [Function.comp_def]
  induction cs generalizing s with
  | nil => exact hbare _ _
  | cons c cs ih =>
      have hrest := ih (s.next c)
      rw [bare] at hrest
      calc bare (shade s (c :: cs))
          = s.emits c ++ strip (s.next c) cs := by rw [bare, shade, List.map_append, hbare, hrest]
        _ = strip s (c :: cs) := by
            rw [strip, strip, CommentState.output, CommentState.after_cons, List.append_assoc]

namespace CommentState

/-- A reader in a string knows the quote that ends it. -/
def KnowsQuote : CommentState → Prop
  | quoted q => isQuote q = true
  | escaped q => isQuote q = true
  | _ => True

theorem knowsQuote_afterPlain (c : Char) : (afterPlain c).KnowsQuote := by
  unfold afterPlain
  split
  · next h => exact h
  · trivial

theorem KnowsQuote.next {s : CommentState} (h : s.KnowsQuote) (c : Char) :
    (s.next c).KnowsQuote := by
  cases s with
  | plain =>
      rw [CommentState.next]
      split
      · trivial
      · exact knowsQuote_afterPlain c
  | slash =>
      rw [CommentState.next]
      split
      · trivial
      · split
        · trivial
        · exact knowsQuote_afterPlain c
  | quoted q =>
      rw [CommentState.next]
      split
      · exact h
      · split
        · trivial
        · exact h
  | escaped q => exact h
  | lineComment =>
      rw [CommentState.next]
      split <;> trivial
  | blockComment afterStar =>
      rw [CommentState.next]
      split <;> trivial

theorem not_isSeparator_of_isQuote {q : Char} (h : isQuote q = true) : isSeparator q = false := by
  simp only [isQuote, Bool.or_eq_true, beq_iff_eq] at h
  rcases h with rfl | rfl <;> rfl

/-- The cover of a character is read like the character. -/
theorem KnowsQuote.next_veil {s : CommentState} (h : s.KnowsQuote) (c : Char) :
    s.next (s.veil c) = s.next c := by
  cases s with
  | quoted q =>
      by_cases hc : isSeparator c = true
      · have hstays : ∀ e, isSeparator e = true ∨ e = 'x' → (quoted q).next e = quoted q := by
          intro e he
          have hq : e ≠ q := by
            rintro rfl
            rcases he with he | rfl
            · rw [not_isSeparator_of_isQuote h] at he
              cases he
            · cases h
          have hescape : e ≠ '\\' ∧ e ≠ '\n' := by
            constructor <;> (rintro rfl; exact absurd he (by decide))
          simp [CommentState.next, hq, hescape.1, hescape.2]
        rw [show (quoted q).veil c = 'x' by simp [veil, inString, veilChar, hc],
          hstays 'x' (Or.inr rfl), hstays c (Or.inl hc)]
      · rw [Bool.not_eq_true] at hc
        rw [show (quoted q).veil c = c by simp [veil, veilChar, hc]]
  | escaped q => rfl
  | plain => rfl
  | slash => rfl
  | lineComment => rfl
  | blockComment afterStar => rfl

/-- What is let through of a covered character is covered. -/
theorem emits_veil (s : CommentState) (c : Char) :
    s.emits (s.veil c) = covered ((s.emits c).map fun e => ⟨e, s.inString⟩) := by
  have hout : s.inString = false → s.veil c = c ∧
      ∀ cs : List Char, covered (cs.map fun e => ⟨e, s.inString⟩) = cs := by
    intro h
    simp [veil, covered, Shaded.veiled, h, Function.comp_def]
  cases s with
  | quoted q => rfl
  | escaped q => rfl
  | plain => rw [(hout rfl).1, (hout rfl).2]
  | slash => rw [(hout rfl).1, (hout rfl).2]
  | lineComment => rw [(hout rfl).1, (hout rfl).2]
  | blockComment afterStar => rw [(hout rfl).1, (hout rfl).2]

end CommentState

/-- **Comments are left out of a covered text as of the text.** -/
theorem strip_veil {s : CommentState} (h : s.KnowsQuote) (cs : List Char) :
    strip s (veil s cs) = covered (shade s cs) := by
  induction cs generalizing s with
  | nil =>
      show s.atEnd = covered (s.atEnd.map fun c => ⟨c, false⟩)
      simp [covered, Shaded.veiled, Function.comp_def]
  | cons c cs ih =>
      have hrest := ih (h.next c)
      calc strip s (veil s (c :: cs))
          = s.emits (s.veil c) ++ strip (s.next (s.veil c)) (veil (s.next c) cs) := by
            rw [veil, strip, CommentState.output, CommentState.after_cons, List.append_assoc, strip]
        _ = s.emits (s.veil c) ++ covered (shade (s.next c) cs) := by rw [h.next_veil, hrest]
        _ = covered (shade s (c :: cs)) := by
            rw [covered, covered, shade, List.map_append, CommentState.emits_veil]
            rfl

/-! ## Whole statements -/

theorem not_isSeparator_veilChar (c : Char) : isSeparator (veilChar c) = false := by
  unfold veilChar
  split
  · rfl
  · next h => rwa [Bool.not_eq_true] at h

namespace Shaded

/-- A covered text is cut where its statements end. -/
theorem ends_veiled (a : Shaded) : endsStatement .scss a.veiled = a.ends := by
  cases h : a.inString
  · simp [endsStatement, veiled, ends, h]
  · have hveil := not_isSeparator_veilChar a.char
    simp only [isSeparator, Bool.or_eq_false_iff, beq_eq_false_iff_ne] at hveil
    simp [endsStatement, veiled, ends, h, hveil.1]

theorem isBrace_veiled (a : Shaded) : isBrace a.veiled = a.brace := by
  cases h : a.inString
  · simp [veiled, brace, h]
  · have hveil := not_isSeparator_veilChar a.char
    rw [isSeparator, Bool.or_eq_false_iff] at hveil
    simp [veiled, brace, h, hveil.2]

end Shaded

/-- The statements of a stylesheet for whom strings are opaque. -/
def wholeStatements (source : List Char) : List (List Shaded) :=
  Text.pieces Shaded.ends (shade .plain source)

/-- What follows the last brace of a statement for whom strings are opaque. -/
def wholeBody (cs : List Shaded) : List Shaded := Text.afterLast Shaded.brace cs

def beforeBody (cs : List Shaded) : List Shaded := Text.dropEndWhile (fun a => !a.brace) cs

theorem beforeBody_append_wholeBody (cs : List Shaded) : beforeBody cs ++ wholeBody cs = cs :=
  Text.dropEndWhile_append_afterLast Shaded.brace cs

/-- What is found in a covered stylesheet is what its whole statements import. -/
theorem importsOf_veil (source : List Char) : importsOf .scss (veil .plain source)
    = (wholeStatements source).flatMap fun cs => bodyImports (covered (wholeBody cs)) := by
  have hbody : ∀ cs : List Shaded, statementImports (covered cs)
      = bodyImports (covered (wholeBody cs)) := by
    intro cs
    rw [statementImports_eq, covered, Text.afterLast_map Shaded.isBrace_veiled]
    rfl
  have hstrip := strip_veil (s := .plain) trivial source
  calc importsOf .scss (veil .plain source)
      = (statements .scss (covered (shade .plain source))).flatMap statementImports := by
        rw [importsOf, stripComments, hstrip]
    _ = (wholeStatements source).flatMap fun cs => statementImports (covered cs) := by
        rw [statements, covered, Text.pieces_map Shaded.ends_veiled, List.flatMap_map]
        rfl
    _ = (wholeStatements source).flatMap fun cs => bodyImports (covered (wholeBody cs)) :=
        List.flatMap_congr fun cs _ => hbody cs

/-- A stylesheet is read statement by statement also if only whole statements count. `start` is
the part of it that is known not to end one. -/
theorem reads_bare_append {start : List Shaded} (h : ∀ a ∈ start, a.ends = false)
    (as : List Shaded) : reads .scss (bare (start ++ as))
      = (Text.pieces Shaded.ends (start ++ as)).flatMap fun cs => reads .scss (bare cs) := by
  induction as generalizing start with
  | nil => rw [List.append_nil, Text.pieces_of_forall h, List.flatMap_singleton]
  | cons a as ih =>
      by_cases ha : a.ends = true
      · have hchar : endsStatement .scss a.char = true := by
          simp only [Shaded.ends, Bool.and_eq_true] at ha
          simpa [endsStatement] using ha.2
        have hbare : bare (start ++ a :: as) = bare start ++ a.char :: bare as := by simp [bare]
        have hrest := @ih [] (by simp)
        rw [List.nil_append] at hrest
        calc reads .scss (bare (start ++ a :: as))
            = reads .scss (bare start) ++ reads .scss (bare as) := by
              rw [hbare, reads_append_of_ends .scss hchar]
          _ = reads .scss (bare start)
                ++ (Text.pieces Shaded.ends as).flatMap fun cs => reads .scss (bare cs) := by
              rw [hrest]
          _ = (Text.pieces Shaded.ends (start ++ a :: as)).flatMap fun cs =>
                reads .scss (bare cs) := by
              rw [Text.pieces_append_of_sep ha, List.flatMap_append, Text.pieces_of_forall h,
                List.flatMap_singleton]
      · rw [Bool.not_eq_true] at ha
        have heq : start ++ a :: as = start ++ [a] ++ as := by simp
        rw [heq]
        refine ih fun b hb => ?_
        rcases List.mem_append.1 hb with hb | hb
        · exact h b hb
        · exact List.mem_singleton.1 hb ▸ ha

theorem importsOf_eq (source : List Char) : importsOf .scss source
    = (wholeStatements source).flatMap fun cs => reads .scss (bare cs) := by
  have hreads := @reads_bare_append [] (by simp) (shade .plain source)
  rwa [List.nil_append, bare_shade] at hreads

/-! ## What the scanner finds in a whole statement -/

/-- What stands behind the first separator of a text. -/
def behind (cs : List Shaded) : List Shaded :=
  (cs.dropWhile fun a => !isSeparator a.char).tail

/-- What the scanner takes a body to import: it stops at a semicolon, and takes what stands before
a brace for a block. -/
def heard (cs : List Shaded) : List (List Char) :=
  match cs.dropWhile fun a => !isSeparator a.char with
  | [] => bodyImports (bare cs)
  | a :: _ =>
    if a.char = ';' then bodyImports (bare (cs.takeWhile fun a => !isSeparator a.char)) else []

/-- What the scanner finds elsewhere in a statement: in the blocks in front of its body, and behind
the first separator in the strings of its body. -/
def stray (cs : List Shaded) : List (List Char) :=
  reads .scss (bare (beforeBody cs)) ++ reads .scss (bare (behind (wholeBody cs)))

/-- What stands before the first separator. -/
theorem takeWhile_append_behind (cs : List Shaded) : cs.dropWhile (fun a => !isSeparator a.char) = []
    ∧ (∀ a ∈ cs, isSeparator a.char = false) ∨ ∃ a, isSeparator a.char = true ∧
      cs.dropWhile (fun a => !isSeparator a.char) = a :: behind cs ∧
      cs = cs.takeWhile (fun a => !isSeparator a.char) ++ a :: behind cs := by
  cases h : cs.dropWhile fun a => !isSeparator a.char with
  | nil =>
      rw [List.dropWhile_eq_nil_iff] at h
      exact Or.inl ⟨rfl, fun a ha => by simpa using h a ha⟩
  | cons a rest =>
      have hbehind : behind cs = rest := by rw [behind, h, List.tail_cons]
      have hhead := @List.head_dropWhile_not _ (fun a => !isSeparator a.char) cs (by simp [h])
      refine Or.inr ⟨a, by simpa [h] using hhead, by rw [hbehind], ?_⟩
      rw [hbehind, ← h, List.takeWhile_append_dropWhile]

theorem not_isSeparator_of_mem_takeWhile {cs : List Shaded} {c : Char}
    (h : c ∈ bare (cs.takeWhile fun a => !isSeparator a.char)) : isSeparator c = false := by
  obtain ⟨a, ha, rfl⟩ := List.mem_map.1 h
  simpa using List.mem_takeWhile_imp ha

/-- A statement without separators is a body. -/
theorem reads_of_no_separator {cs : List Char} (h : ∀ c ∈ cs, isSeparator c = false) :
    reads .scss cs = bodyImports cs := by
  simp only [isSeparator, Bool.or_eq_false_iff] at h
  have hends : ∀ c ∈ cs, endsStatement .scss c = false := by
    intro c hc
    simpa [endsStatement] using (h c hc).1
  rw [reads_of_no_ends .scss hends, statementImports_eq,
    Text.afterLast_of_forall fun c hc => (h c hc).2]

/-- A body is heard up to its first separator, and what stands behind it is read afresh. -/
theorem reads_bare_body (cs : List Shaded) :
    reads .scss (bare cs) = heard cs ++ reads .scss (bare (behind cs)) := by
  rcases takeWhile_append_behind cs with ⟨hnil, hnone⟩ | ⟨a, ha, hdrop, heq⟩
  · have hbare : ∀ c ∈ bare cs, isSeparator c = false := by
      intro c hc
      obtain ⟨a, ha, rfl⟩ := List.mem_map.1 hc
      exact hnone a ha
    rw [reads_of_no_separator hbare, heard, hnil, behind, hnil]
    exact (List.append_nil _).symm
  · have hstart : ∀ c ∈ bare (cs.takeWhile fun a => !isSeparator a.char), isSeparator c = false :=
      fun c hc => not_isSeparator_of_mem_takeWhile hc
    have hbare : bare cs
        = bare (cs.takeWhile fun a => !isSeparator a.char) ++ a.char :: bare (behind cs) := by
      conv_lhs => rw [heq]
      simp [bare]
    rw [hbare, heard, hdrop]
    by_cases hsemicolon : a.char = ';'
    · have hends : endsStatement .scss a.char = true := by simp [endsStatement, hsemicolon]
      rw [reads_append_of_ends .scss hends, reads_of_no_separator hstart]
      simp only [hsemicolon, if_true]
    · have hbrace : isBrace a.char = true := by
        simpa [isSeparator, hsemicolon] using ha
      have hends : ∀ c ∈ bare (cs.takeWhile fun a => !isSeparator a.char),
          endsStatement .scss c = false := by
        intro c hc
        have hc := hstart c hc
        rw [isSeparator, Bool.or_eq_false_iff] at hc
        simpa [endsStatement] using hc.1
      have hrest := inert_of_brace hends hbrace (bare (behind cs))
      rw [List.append_assoc, List.singleton_append] at hrest
      rw [hrest]
      simp only [hsemicolon, if_false]
      rfl

/-- **What the scanner finds in a whole statement.** -/
theorem reads_bare (cs : List Shaded) : reads .scss (bare cs)
    = reads .scss (bare (beforeBody cs)) ++
      (heard (wholeBody cs) ++ reads .scss (bare (behind (wholeBody cs)))) := by
  rw [← reads_bare_body]
  conv_lhs => rw [← beforeBody_append_wholeBody cs]
  rcases Text.dropEndWhile_eq_nil_or_concat (fun a => !Shaded.brace a) cs with
    hnil | ⟨before, b, hbefore, hb⟩
  · rw [beforeBody, hnil]
    show reads .scss (bare (wholeBody cs)) = reads .scss [] ++ _
    rw [reads_nil, List.nil_append]
  · have hbrace : isBrace b.char = true := by
      simp only [Shaded.brace, Bool.not_eq_false', Bool.and_eq_true] at hb
      exact hb.2
    have hread := @reads_append_of_brace .scss b.char hbrace [] (by simp) (bare before)
      (bare (wholeBody cs))
    rw [beforeBody, hbefore]
    simpa [bare] using hread

/-- What is heard of a body is the first of what it imports as a whole. -/
theorem heard_isPrefix (cs : List Shaded) : heard cs <+: bodyImports (covered cs) := by
  have hcovered : ∀ as : List Shaded, (∀ a ∈ as, isSeparator a.char = false) →
      covered as = bare as := by
    intro as has
    refine List.map_congr_left fun a ha => ?_
    simp [Shaded.veiled, veilChar, has a ha]
  rcases takeWhile_append_behind cs with ⟨hnil, hnone⟩ | ⟨a, ha, hdrop, heq⟩
  · have hwhole : heard cs = bodyImports (covered cs) := by rw [heard, hnil, hcovered cs hnone]
    exact hwhole ▸ List.prefix_rfl
  · rw [heard, hdrop]
    dsimp only
    split
    · refine bodyImports_isPrefix ?_
      have hstart := hcovered (cs.takeWhile fun a => !isSeparator a.char) fun a ha => by
        simpa using List.mem_takeWhile_imp ha
      rw [← hstart]
      exact (List.takeWhile_prefix _).map _
    · exact List.nil_prefix

/-! ## Opaque strings -/

/-- Whether a separator in a string makes an import appear. -/
def Conjures (source : String) : Prop := ∃ cs ∈ wholeStatements source.toList, stray cs ≠ []

/-- Whether a separator in a string hides an import. -/
def Hides (source : String) : Prop := ∃ cs ∈ wholeStatements source.toList,
  heard (wholeBody cs) ≠ bodyImports (covered (wholeBody cs))

/-- No separator is part of what is found. -/
theorem map_veilSpecifier_scanImports (source : String) :
    (scanImports source .scss).map veilSpecifier = scanImports source .scss := by
  have hspec : ∀ spec ∈ importsOf .scss source.toList, spec.map veilChar = spec := by
    intro spec hspec
    obtain ⟨cs, hcs, hspec⟩ := List.mem_flatMap.1 hspec
    conv_rhs => rw [← List.map_id spec]
    refine List.map_congr_left fun c hc => ?_
    have hbody := mem_of_mem_bodyImports hspec hc
    have hends := Text.not_sep_of_mem_pieces hcs (Text.mem_of_mem_afterLast hbody)
    have hsemicolon : c ≠ ';' := by simpa [endsStatement] using hends
    have hbrace := Text.not_of_mem_afterLast hbody
    simp [veilChar, isSeparator, hsemicolon, hbrace]
  rw [scanImports, List.map_map]
  refine List.map_congr_left fun spec h => ?_
  show String.ofList ((String.ofList spec).toList.map veilChar) = _
  rw [String.toList_ofList, hspec spec h]

/-- Texts that are no longer part for part, and no shorter in all, are as long part for part. -/
theorem length_eq_of_length_flatMap_eq {α β : Type} {f g : α → List β} {as : List α}
    (h : ∀ a ∈ as, (f a).length ≤ (g a).length)
    (hsum : (as.flatMap g).length ≤ (as.flatMap f).length) :
    ∀ a ∈ as, (f a).length = (g a).length := by
  have hle : ∀ bs : List α, (∀ b ∈ bs, (f b).length ≤ (g b).length) →
      (bs.flatMap f).length ≤ (bs.flatMap g).length := by
    intro bs hbs
    induction bs with
    | nil => exact le_refl _
    | cons b bs ih =>
        rw [List.flatMap_cons, List.flatMap_cons, List.length_append, List.length_append]
        exact Nat.add_le_add (hbs b (by simp)) (ih fun c hc => hbs c (List.mem_cons_of_mem b hc))
  induction as with
  | nil => simp
  | cons b as ih =>
      have hb := h b (by simp)
      have has := fun c hc => h c (List.mem_cons_of_mem b hc)
      have hrest := hle as has
      rw [List.flatMap_cons, List.flatMap_cons, List.length_append, List.length_append] at hsum
      intro a ha
      rcases List.mem_cons.1 ha with rfl | ha
      · omega
      · exact ih has (by omega) a ha

theorem length_reads_bare (cs : List Shaded) :
    (reads .scss (bare cs)).length = (stray cs).length + (heard (wholeBody cs)).length := by
  rw [reads_bare, stray]
  simp only [List.length_append]
  omega

theorem not_conjures_iff (source : String) :
    ¬ Conjures source ↔ ∀ cs ∈ wholeStatements source.toList, stray cs = [] := by
  simp [Conjures]

theorem not_hides_iff (source : String) : ¬ Hides source ↔ ∀ cs ∈ wholeStatements source.toList,
    heard (wholeBody cs) = bodyImports (covered (wholeBody cs)) := by
  simp [Hides]

/-- A statement in which nothing appears and nothing is hidden is read as a whole. -/
theorem reads_bare_eq_bodyImports {cs : List Shaded} (hstray : stray cs = [])
    (hheard : heard (wholeBody cs) = bodyImports (covered (wholeBody cs))) :
    reads .scss (bare cs) = bodyImports (covered (wholeBody cs)) := by
  obtain ⟨hbefore, hbehind⟩ := List.append_eq_nil_iff.1 hstray
  calc reads .scss (bare cs)
      = reads .scss (bare (beforeBody cs)) ++ (heard (wholeBody cs)
          ++ reads .scss (bare (behind (wholeBody cs)))) := reads_bare cs
    _ = heard (wholeBody cs) := by rw [hbefore, hbehind, List.nil_append, List.append_nil]
    _ = bodyImports (covered (wholeBody cs)) := hheard

theorem scanImports_veilStrings_eq_iff (source : String) :
    scanImports (veilStrings source) .scss = (scanImports source .scss).map veilSpecifier ↔
      (wholeStatements source.toList).flatMap (fun cs => bodyImports (covered (wholeBody cs)))
        = (wholeStatements source.toList).flatMap fun cs => reads .scss (bare cs) := by
  rw [map_veilSpecifier_scanImports, scanImports, scanImports, veilStrings, String.toList_ofList,
    ← importsOf_veil, ← importsOf_eq]
  refine List.map_inj_right fun as bs h => ?_
  have hlist := congrArg String.toList h
  rwa [String.toList_ofList, String.toList_ofList] at hlist

/-- **When strings are opaque to the scanner.** Covering the separators in the strings of a
stylesheet makes no difference if they neither conjure nor hide an import. If they do one of the
two it makes a difference, and only if they do both can what appears make up for what is hidden. -/
theorem scanImports_veilStrings_iff (source : String) :
    scanImports (veilStrings source) .scss = (scanImports source .scss).map veilSpecifier ∧
        ¬ (Conjures source ∧ Hides source) ↔
      ¬ Conjures source ∧ ¬ Hides source := by
  rw [scanImports_veilStrings_eq_iff]
  constructor
  · rintro ⟨heq, hboth⟩
    -- equal lists are equally long, and what strings conjure only adds to the number of imports,
    -- while what they hide only takes from it
    have hlength := congrArg List.length heq
    have hprefix := fun cs : List Shaded => (heard_isPrefix (wholeBody cs)).length_le
    have hshows : ¬ Hides source → ¬ Conjures source := by
      rw [not_hides_iff, not_conjures_iff]
      intro hheard cs hcs
      have hsame := length_eq_of_length_flatMap_eq (fun cs hcs => by
        rw [length_reads_bare, hheard cs hcs]
        exact Nat.le_add_left _ _) hlength.ge cs hcs
      rw [length_reads_bare, hheard cs hcs] at hsame
      exact List.eq_nil_of_length_eq_zero (by omega)
    have hmisses : ¬ Conjures source → ¬ Hides source := by
      rw [not_hides_iff, not_conjures_iff]
      intro hstray cs hcs
      have hsame := length_eq_of_length_flatMap_eq (fun cs hcs => by
        rw [length_reads_bare, hstray cs hcs]
        simpa using hprefix cs) hlength.le cs hcs
      rw [length_reads_bare, hstray cs hcs] at hsame
      exact (heard_isPrefix (wholeBody cs)).eq_of_length (by simpa using hsame)
    by_cases hconjures : Conjures source
    · exact absurd hconjures (hshows fun hhides => hboth ⟨hconjures, hhides⟩)
    · exact ⟨hconjures, hmisses hconjures⟩
  · rintro ⟨hconjures, hhides⟩
    refine ⟨List.flatMap_congr fun cs hcs => ?_, fun hboth => hconjures hboth.1⟩
    rw [not_conjures_iff] at hconjures
    rw [not_hides_iff] at hhides
    exact (reads_bare_eq_bodyImports (hconjures cs hcs) (hhides cs hcs)).symm

/-- A semicolon in a specifier hides the import. -/
theorem scanImports_veilStrings_semicolon :
    scanImports (veilStrings "@import \"a;b\";") .scss
      ≠ (scanImports "@import \"a;b\";" .scss).map veilSpecifier := by
  decide +kernel

end Stylesheet.Scan
