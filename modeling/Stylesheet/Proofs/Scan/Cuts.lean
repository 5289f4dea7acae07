import Stylesheet.Proofs.Scan.Bodies
import Stylesheet.Proofs.Text.Slice

set_option autoImplicit false

/-! # Where arguments are cut

A comma separates arguments if it stands outside strings and parentheses (`AtTopLevel`). What is
outside of strings is said by taking strings as wholes (`Closes`), and the parentheses are counted
in that alone (`openParentheses`); the reader of arguments, which goes character by character, is at
its start again exactly there (`after_eq_start_iff`). So the arguments of a text are cut at these
commas and at no others (`cutBehind_iff`), and each of them starts afresh
(`splitArguments_of_mem`). That they are slices of the text at byte offsets is `sliceArguments_eq`.
-/

namespace Stylesheet.Scan

open Text

/-! ## Commas outside strings and parentheses -/

/-- A text whose strings are all closed, and what stands outside of them. It is told by the text
alone, without the state of a reader. -/
inductive Closes : List Char → List Char → Prop
  | nil : Closes [] []
  | char {c : Char} {cs outer : List Char} (hquote : isQuote c = false) (rest : Closes cs outer) :
      Closes (c :: cs) (c :: outer)
  | string {q : Char} {body cs outer : List Char} (hquote : isQuote q = true) (hbody : q ∉ body)
      (rest : Closes cs outer) : Closes (q :: (body ++ q :: cs)) outer

/-- The number of open parentheses behind one more character. One that closes nothing does not
count. -/
def countParenthesis (depth : Nat) (c : Char) : Nat :=
  if c = '(' then depth + 1 else if c = ')' then depth - 1 else depth

def openParentheses (cs : List Char) : Nat := cs.foldl countParenthesis 0

/-- What follows a text stands outside its strings and parentheses. -/
def AtTopLevel (before : List Char) : Prop :=
  ∃ outer, Closes before outer ∧ openParentheses outer = 0

/-- The comma behind `before` is one of those between the parts of a text. -/
def CutBehind (parts : List (List Char)) (before : List Char) : Prop :=
  ∃ left right, left ≠ [] ∧ right ≠ [] ∧ parts = left ++ right ∧ join ',' left = before

/-! ## The reader of arguments -/

namespace ArgumentState

def after (s : ArgumentState) (cs : List Char) : ArgumentState := cs.foldl next s

@[simp] theorem after_nil (s : ArgumentState) : s.after [] = s := rfl

@[simp] theorem after_cons (s : ArgumentState) (c : Char) (cs : List Char) :
    s.after (c :: cs) = (s.next c).after cs := rfl

theorem after_append (s : ArgumentState) (as bs : List Char) :
    s.after (as ++ bs) = (s.after as).after bs := by
  simp [after]

/-- Arguments are cut at a comma at the start and nowhere else. -/
theorem cuts_iff {s : ArgumentState} {c : Char} : s.cuts c = true ↔ s = start ∧ c = ',' := by
  obtain ⟨quote, depth⟩ := s
  simp [cuts, start, and_assoc]

theorem next_of_not_isQuote (depth : Nat) {c : Char} (h : isQuote c = false) :
    (⟨none, depth⟩ : ArgumentState).next c = ⟨none, countParenthesis depth c⟩ := by
  simp only [next, h, Bool.false_eq_true, if_false, countParenthesis]
  split_ifs <;> rfl

theorem next_of_isQuote (depth : Nat) {q : Char} (h : isQuote q = true) :
    (⟨none, depth⟩ : ArgumentState).next q = ⟨some q, depth⟩ := by
  simp [next, h]

theorem next_quoted (q : Char) (depth : Nat) (c : Char) :
    (⟨some q, depth⟩ : ArgumentState).next c = ⟨if c = q then none else some q, depth⟩ := by
  simp only [next]
  split_ifs <;> rfl

/-- In a string nothing counts. -/
theorem after_quoted {q : Char} {depth : Nat} {cs : List Char} (h : q ∉ cs) :
    (⟨some q, depth⟩ : ArgumentState).after cs = ⟨some q, depth⟩ := by
  induction cs with
  | nil => rfl
  | cons c cs ih =>
      obtain ⟨hc, hcs⟩ := not_or.1 (List.mem_cons.not.1 h)
      rw [after_cons, next_quoted, if_neg (Ne.symm hc), ih hcs]

/-- Behind closed strings only the parentheses outside of them count. -/
theorem after_of_closes {cs outer : List Char} (h : Closes cs outer) (depth : Nat) :
    (⟨none, depth⟩ : ArgumentState).after cs = ⟨none, outer.foldl countParenthesis depth⟩ := by
  induction h generalizing depth with
  | nil => rfl
  | char hquote _ ih => rw [after_cons, next_of_not_isQuote depth hquote, ih, List.foldl_cons]
  | @string q body cs outer hquote hbody _ ih =>
      calc (⟨none, depth⟩ : ArgumentState).after (q :: (body ++ q :: cs))
          = (⟨some q, depth⟩ : ArgumentState).after (body ++ q :: cs) := by
            rw [after_cons, next_of_isQuote depth hquote]
        _ = (⟨some q, depth⟩ : ArgumentState).after (q :: cs) := by
            rw [after_append, after_quoted hbody]
        _ = (⟨none, depth⟩ : ArgumentState).after cs := by rw [after_cons, next_quoted, if_pos rfl]
        _ = ⟨none, outer.foldl countParenthesis depth⟩ := ih depth

/-- A text that ends outside strings has all its strings closed. A string that was open before it
ends in it, and behind that all are closed. -/
theorem exists_closes (cs : List Char) :
    (∀ depth, ((⟨none, depth⟩ : ArgumentState).after cs).quote = none →
        ∃ outer, Closes cs outer) ∧
      ∀ q depth, ((⟨some q, depth⟩ : ArgumentState).after cs).quote = none →
        ∃ body rest outer, cs = body ++ q :: rest ∧ q ∉ body ∧ Closes rest outer := by
  -- a string is entered in the first part and left in the second
  induction cs with
  | nil => exact ⟨fun _ _ => ⟨[], .nil⟩, fun q depth h => by cases h⟩
  | cons c cs ih =>
      obtain ⟨hout, hin⟩ := ih
      refine ⟨fun depth h => ?_, fun q depth h => ?_⟩
      · rw [after_cons] at h
        cases hquote : isQuote c with
        | true =>
            rw [next_of_isQuote depth hquote] at h
            obtain ⟨body, rest, outer, rfl, hbody, hrest⟩ := hin c depth h
            exact ⟨outer, .string hquote hbody hrest⟩
        | false =>
            rw [next_of_not_isQuote depth hquote] at h
            obtain ⟨outer, hrest⟩ := hout _ h
            exact ⟨c :: outer, .char hquote hrest⟩
      · rw [after_cons, next_quoted] at h
        by_cases hc : c = q
        · rw [if_pos hc] at h
          obtain ⟨outer, hrest⟩ := hout depth h
          exact ⟨[], cs, outer, by rw [hc]; rfl, List.not_mem_nil, hrest⟩
        · rw [if_neg hc] at h
          obtain ⟨body, rest, outer, rfl, hbody, hrest⟩ := hin q depth h
          exact ⟨c :: body, rest, outer, rfl, by simp [Ne.symm hc, hbody], hrest⟩

/-- **The reader is at its start again** behind a text whose strings and parentheses are closed. -/
theorem after_eq_start_iff {cs : List Char} : start.after cs = start ↔ AtTopLevel cs := by
  constructor
  · intro h
    obtain ⟨outer, hcloses⟩ := (exists_closes cs).1 0 (congrArg quote h)
    have hafter : start.after cs = ⟨none, openParentheses outer⟩ := after_of_closes hcloses 0
    exact ⟨outer, hcloses, congrArg depth (hafter.symm.trans h)⟩
  · rintro ⟨outer, hcloses, hdepth⟩
    have hafter : start.after cs = ⟨none, openParentheses outer⟩ := after_of_closes hcloses 0
    rw [hafter, hdepth]
    rfl

end ArgumentState

open ArgumentState

/-! ## Cuts -/

/-- One more character in front is a cut, or goes to the first argument. -/
theorem argumentsFrom_cons (s : ArgumentState) (c : Char) (cs : List Char) : ∃ p ps,
    argumentsFrom (s.next c) cs = p :: ps ∧
      ((s = start ∧ c = ',' ∧ argumentsFrom s (c :: cs) = [] :: p :: ps) ∨
        (s.cuts c = false ∧ argumentsFrom s (c :: cs) = (c :: p) :: ps)) := by
  cases hrest : argumentsFrom (s.next c) cs with
  | nil => exact absurd hrest (argumentsFrom_ne_nil _ _)
  | cons p ps =>
      refine ⟨p, ps, rfl, ?_⟩
      rw [argumentsFrom, hrest]
      cases hcut : s.cuts c with
      | true =>
          obtain ⟨hs, hc⟩ := cuts_iff.1 hcut
          exact .inl ⟨hs, hc, rfl⟩
      | false => exact .inr ⟨rfl, rfl⟩

/-- A character in front of the first piece stands in front of the text. -/
theorem join_cons_piece (c : Char) (part : List Char) (parts : List (List Char)) :
    join ',' ((c :: part) :: parts) = c :: join ',' (part :: parts) := by
  rw [join_cons, join_cons, List.cons_append]

/-- The arguments put together again are the text. -/
theorem join_argumentsFrom (s : ArgumentState) (cs : List Char) :
    join ',' (argumentsFrom s cs) = cs := by
  induction cs generalizing s with
  | nil => rfl
  | cons c cs ih =>
      have hjoin := ih (s.next c)
      obtain ⟨p, ps, hrest, ⟨-, rfl, hcons⟩ | ⟨-, hcons⟩⟩ := argumentsFrom_cons s c cs
      · rw [hcons, join_cons_cons, ← hrest, hjoin, List.nil_append]
      · rw [hcons, join_cons_piece, ← hrest, hjoin]

theorem cutBehind_nil_cons {parts : List (List Char)} {before : List Char} :
    CutBehind ([] :: parts) (',' :: before) ↔ CutBehind parts before := by
  constructor
  · rintro ⟨_ | ⟨p, left⟩, right, hleft, hright, hparts, hjoin⟩
    · exact absurd rfl hleft
    · obtain ⟨rfl, rfl⟩ := List.cons.inj hparts
      have hmore : left ≠ [] := by
        rintro rfl
        cases hjoin
      rw [join_cons_of_ne_nil ',' [] hmore] at hjoin
      exact ⟨left, right, hmore, hright, rfl, (List.cons.inj hjoin).2⟩
  · rintro ⟨left, right, hleft, hright, rfl, rfl⟩
    exact ⟨[] :: left, right, List.cons_ne_nil _ _, hright, rfl, join_cons_of_ne_nil ',' [] hleft⟩

theorem cutBehind_cons_cons {c : Char} {part before : List Char} {parts : List (List Char)} :
    CutBehind ((c :: part) :: parts) (c :: before) ↔ CutBehind (part :: parts) before := by
  constructor
  · rintro ⟨_ | ⟨p, left⟩, right, hleft, hright, hparts, hjoin⟩
    · exact absurd rfl hleft
    · obtain ⟨rfl, rfl⟩ := List.cons.inj hparts
      rw [join_cons_piece] at hjoin
      exact ⟨part :: left, right, List.cons_ne_nil _ _, hright, rfl, (List.cons.inj hjoin).2⟩
  · rintro ⟨_ | ⟨p, left⟩, right, hleft, hright, hparts, rfl⟩
    · exact absurd rfl hleft
    · obtain ⟨rfl, rfl⟩ := List.cons.inj hparts
      exact ⟨(c :: part) :: left, right, List.cons_ne_nil _ _, hright, rfl, join_cons_piece _ _ _⟩

/-- **Arguments are cut at a comma** exactly if the reader is at its start there. -/
theorem cutBehind_iff (s : ArgumentState) (before behind : List Char) :
    CutBehind (argumentsFrom s (before ++ ',' :: behind)) before ↔ s.after before = start := by
  induction before generalizing s with
  | nil =>
      rw [List.nil_append, after_nil]
      obtain ⟨p, ps, -, ⟨rfl, -, hcons⟩ | ⟨hcut, hcons⟩⟩ := argumentsFrom_cons s ',' behind
      · rw [hcons]
        exact iff_of_true ⟨[[]], p :: ps, by simp, by simp, rfl, rfl⟩ rfl
      · rw [hcons]
        refine iff_of_false ?_ ?_
        · rintro ⟨left, right, hleft, -, hparts, hjoin⟩
          rw [(join_eq_nil_iff ',' hleft).1 hjoin] at hparts
          cases hparts
        · rintro rfl
          cases hcut
  | cons c before ih =>
      rw [List.cons_append, after_cons, ← ih]
      obtain ⟨p, ps, hrest, ⟨rfl, rfl, hcons⟩ | ⟨-, hcons⟩⟩ :=
        argumentsFrom_cons s c (before ++ ',' :: behind)
      · rw [hcons, hrest, cutBehind_nil_cons]
      · rw [hcons, hrest, cutBehind_cons_cons]

/-- No argument is cut again. The first is read from where the text is read, and the others from
the start. -/
theorem argumentsFrom_of_eq_cons {s : ArgumentState} {cs p : List Char} {ps : List (List Char)}
    (h : argumentsFrom s cs = p :: ps) :
    argumentsFrom s p = [p] ∧ ∀ q ∈ ps, splitArguments q = [q] := by
  induction cs generalizing s p ps with
  | nil =>
      obtain ⟨rfl, rfl⟩ := List.cons.inj h
      exact ⟨rfl, by simp⟩
  | cons c cs ih =>
      obtain ⟨a, as, hrest, ⟨rfl, rfl, hcons⟩ | ⟨hcut, hcons⟩⟩ := argumentsFrom_cons s c cs
      · obtain ⟨rfl, rfl⟩ := List.cons.inj (hcons.symm.trans h)
        obtain ⟨hfirst, hothers⟩ := ih hrest
        exact ⟨rfl, List.forall_mem_cons.2 ⟨hfirst, hothers⟩⟩
      · obtain ⟨rfl, rfl⟩ := List.cons.inj (hcons.symm.trans h)
        obtain ⟨hfirst, hothers⟩ := ih hrest
        exact ⟨argumentsFrom_of_not_cuts hcut hfirst, hothers⟩

theorem splitArguments_of_mem {cs part : List Char} (h : part ∈ splitArguments cs) :
    splitArguments part = [part] := by
  cases hparts : splitArguments cs with
  | nil => exact absurd hparts (argumentsFrom_ne_nil _ _)
  | cons p ps =>
      obtain ⟨hfirst, hothers⟩ := argumentsFrom_of_eq_cons hparts
      rw [hparts] at h
      rcases List.mem_cons.1 h with rfl | h
      · exact hfirst
      · exact hothers part h

theorem not_cutBehind_singleton (part before : List Char) : ¬ CutBehind [part] before := by
  rintro ⟨left, right, hleft, hright, hparts, -⟩
  rcases List.singleton_eq_append_iff.1 hparts with ⟨h, -⟩ | ⟨-, h⟩
  · exact hleft h
  · exact hright h

/-! ## Slices -/

/-- Both offsets are lengths of what was read: `pre` before the argument and `part` of it. -/
theorem sliceArgumentsFrom_eq (pre part : List Char) (s : ArgumentState) (cs : List Char)
    {p : List Char} {ps : List (List Char)} (h : argumentsFrom s cs = p :: ps) :
    sliceArgumentsFrom (pre ++ part ++ cs) s (byteLength pre) (byteLength (pre ++ part)) cs
      = .ok ((part ++ p) :: ps) := by
  induction cs generalizing pre part s p ps with
  | nil =>
      obtain ⟨rfl, rfl⟩ := List.cons.inj h
      rw [sliceArgumentsFrom, List.append_assoc, sliceFrom_append]
      rfl
  | cons c cs ih =>
      have hnext : byteLength (pre ++ part) + c.utf8Size = byteLength (pre ++ part ++ [c]) := by
        rw [byteLength_append _ [c]]
        rfl
      have htext : pre ++ part ++ c :: cs = pre ++ part ++ [c] ++ cs := by simp
      obtain ⟨a, as, hrest, ⟨rfl, rfl, hcons⟩ | ⟨hcut, hcons⟩⟩ := argumentsFrom_cons s c cs
      · obtain ⟨rfl, rfl⟩ := List.cons.inj (hcons.symm.trans h)
        -- the next argument starts behind the comma, which is one byte
        have hbegin : byteLength (pre ++ part) + 1 = byteLength (pre ++ part ++ [',']) := hnext
        have hcut : ArgumentState.start.cuts ',' = true := rfl
        have hlater := ih (pre ++ part ++ [',']) [] _ hrest
        rw [List.append_nil] at hlater
        calc sliceArgumentsFrom (pre ++ part ++ ',' :: cs) .start (byteLength pre)
              (byteLength (pre ++ part)) (',' :: cs)
            = (do
                let slices ← sliceArgumentsFrom (pre ++ part ++ [','] ++ cs) (.next .start ',')
                  (byteLength (pre ++ part ++ [','])) (byteLength (pre ++ part ++ [','])) cs
                return part :: slices) := by
              rw [sliceArgumentsFrom, if_pos hcut, slice_append, hnext, hbegin, htext]
              rfl
          _ = .ok (part :: a :: as) := by
              rw [hlater]
              rfl
          _ = .ok ((part ++ []) :: a :: as) := by rw [List.append_nil]
      · obtain ⟨rfl, rfl⟩ := List.cons.inj (hcons.symm.trans h)
        have hlater := ih pre (part ++ [c]) _ hrest
        rw [← List.append_assoc] at hlater
        calc sliceArgumentsFrom (pre ++ part ++ c :: cs) s (byteLength pre)
              (byteLength (pre ++ part)) (c :: cs)
            = sliceArgumentsFrom (pre ++ part ++ [c] ++ cs) (s.next c) (byteLength pre)
                (byteLength (pre ++ part ++ [c])) cs := by
              rw [sliceArgumentsFrom, hcut, if_neg Bool.false_ne_true, hnext, htext]
          _ = .ok ((part ++ [c] ++ a) :: as) := hlater
          _ = .ok ((part ++ c :: a) :: as) := by rw [List.append_assoc, List.singleton_append]

/-- **Arguments are slices**: no offset is out of range or inside a character. -/
theorem sliceArguments_eq (text : List Char) : sliceArguments text = .ok (splitArguments text) := by
  cases hparts : splitArguments text with
  | nil => exact absurd hparts (argumentsFrom_ne_nil _ _)
  | cons p ps => exact sliceArgumentsFrom_eq [] [] .start text hparts

/-- **Arguments are cut exactly at the commas outside strings and parentheses.** They are slices of
the text and with commas between them the text again; a comma is one of these if and only if it
stands outside, and no such comma is left in an argument. -/
theorem splitArguments_cuts (cs : List Char) :
    sliceArguments cs = .ok (splitArguments cs) ∧ splitArguments cs ≠ [] ∧
      join ',' (splitArguments cs) = cs ∧
      (∀ before behind, cs = before ++ ',' :: behind →
        (CutBehind (splitArguments cs) before ↔ AtTopLevel before)) ∧
      ∀ part ∈ splitArguments cs, ∀ before behind, part = before ++ ',' :: behind →
        ¬ AtTopLevel before := by
  refine ⟨sliceArguments_eq cs, argumentsFrom_ne_nil _ _, join_argumentsFrom _ _, ?_, ?_⟩
  · rintro before behind rfl
    exact (cutBehind_iff .start before behind).trans after_eq_start_iff
  · -- a comma outside would cut the argument, which is a whole
    rintro part hpart before behind rfl htop
    have hcut := (cutBehind_iff .start before behind).2 (after_eq_start_iff.2 htop)
    have hwhole : argumentsFrom .start (before ++ ',' :: behind) = _ := splitArguments_of_mem hpart
    rw [hwhole] at hcut
    exact not_cutBehind_singleton _ _ hcut

/-- A parenthesis that closes nothing, and commas in a string and in parentheses. -/
theorem splitArguments_cuts_nested :
    splitArguments ")'ü,(', g(\"a\",b),c".toList
        = [")'ü,('".toList, " g(\"a\",b)".toList, "c".toList] ∧
      (")'ü,(', g(\"a\",b),c".toList = ")'ü,('".toList ++ ',' :: " g(\"a\",b),c".toList ∧
        AtTopLevel ")'ü,('".toList) ∧
      " g(\"a\",b)".toList ∈ splitArguments ")'ü,(', g(\"a\",b),c".toList ∧
        " g(\"a\",b)".toList = " g(\"a\"".toList ++ ',' :: "b)".toList ∧
        ¬ AtTopLevel " g(\"a\"".toList := by
  have hparts : splitArguments ")'ü,(', g(\"a\",b),c".toList
      = [")'ü,('".toList, " g(\"a\",b)".toList, "c".toList] := by rfl
  have htext : ")'ü,(', g(\"a\",b),c".toList
      = ")'ü,('".toList ++ ',' :: " g(\"a\",b),c".toList := by rfl
  have hpart : " g(\"a\",b)".toList = " g(\"a\"".toList ++ ',' :: "b)".toList := by rfl
  have hmem : " g(\"a\",b)".toList ∈ splitArguments ")'ü,(', g(\"a\",b),c".toList := by
    rw [hparts]
    simp
  obtain ⟨-, -, -, hcuts, hinner⟩ := splitArguments_cuts ")'ü,(', g(\"a\",b),c".toList
  refine ⟨hparts, ⟨htext, (hcuts _ _ htext).1 ?_⟩, hmem, hpart, hinner _ hmem _ _ hpart⟩
  exact ⟨[")'ü,('".toList], [" g(\"a\",b)".toList, "c".toList], by simp, by simp, hparts, rfl⟩

end Stylesheet.Scan
