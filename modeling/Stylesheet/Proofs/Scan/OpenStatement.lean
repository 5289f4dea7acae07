import Stylesheet.Proofs.Scan.Neutral

set_option autoImplicit false

/-! # Statements in front of a brace

A semicolon ends a statement and a brace does not: of a statement only what follows its last brace is
looked at. So a brace takes what it follows out of the statement that was left open
(`reads_append_brace`), and the last statement of a block is found only with its semicolon
(`scanImports_closeBrace_iff`).
-/

namespace Stylesheet.Scan

open CommentState

/-- The statement at the end of a stylesheet, which no semicolon ends. -/
def openStatement (d : Dialect) (source : String) : List Char :=
  Text.afterLast (endsStatement d) (stripComments source.toList)

def openImports (d : Dialect) (source : String) : List String :=
  (statementImports (openStatement d source)).map String.ofList

variable {d : Dialect}

/-- A text is read as what its statements import and, apart from that, what follows their end. -/
theorem exists_reads_afterLast (d : Dialect) (cs : List Char) : ∃ found : List (List Char),
    ∀ rest, reads d (cs ++ rest) = found ++ reads d (Text.afterLast (endsStatement d) cs ++ rest) := by
  have hcs := Text.dropEndWhile_append_afterLast (endsStatement d) cs
  rcases Text.dropEndWhile_eq_nil_or_concat (fun c => !endsStatement d c) cs with
    hnil | ⟨closed, c, hclosed, hc⟩
  · rw [hnil, List.nil_append] at hcs
    exact ⟨[], fun rest => by rw [hcs, List.nil_append]⟩
  · have hends : endsStatement d c = true := by simpa using hc
    rw [hclosed, List.append_assoc, List.singleton_append] at hcs
    refine ⟨reads d closed, fun rest => ?_⟩
    have hrest := reads_append_of_ends d hends closed
      (Text.afterLast (endsStatement d) cs ++ rest)
    rwa [← List.cons_append, ← List.append_assoc, hcs] at hrest

/-- A brace takes what stands in front of it out of the open statement. -/
theorem reads_append_brace {b : Char} (hb : isBrace b = true) (cs : List Char) :
    ∃ found : List (List Char),
      reads d cs = found ++ statementImports (Text.afterLast (endsStatement d) cs) ∧
        ∀ rest, reads d (cs ++ b :: rest) = found ++ reads d rest := by
  have hopen : ∀ c ∈ Text.afterLast (endsStatement d) cs, endsStatement d c = false :=
    fun c hc => Text.not_of_mem_afterLast hc
  obtain ⟨found, hfound⟩ := exists_reads_afterLast d cs
  refine ⟨found, ?_, fun rest => ?_⟩
  · have hend := hfound []
    rw [List.append_nil, List.append_nil] at hend
    rw [hend, reads_of_no_ends d hopen]
  · have hinert := inert_of_brace hopen hb rest
    rw [List.append_assoc, List.singleton_append] at hinert
    rw [hfound, hinert]

/-- A brace that nothing stands in front of is skipped. -/
theorem reads_brace_cons {b : Char} (hb : isBrace b = true) (cs : List Char) :
    reads d (b :: cs) = reads d cs :=
  @inert_of_brace d [] b (by simp) hb cs

/-- **A closing brace stands for the semicolon in front of it** exactly if the statement that it
follows imports nothing. Otherwise just what that statement imports is missing. -/
theorem scanImports_closeBrace_iff (d : Dialect) {a : String} (ha : Neutral a) (b : String) :
    (scanImports (a ++ "\x7d" ++ b) d = scanImports (a ++ ";\x7d" ++ b) d ↔
        openImports d a = []) ∧
      ∃ found : List String, scanImports a d = found ++ openImports d a ∧
        scanImports (a ++ "\x7d" ++ b) d = found ++ scanImports b d ∧
        scanImports (a ++ ";\x7d" ++ b) d = found ++ openImports d a ++ scanImports b d := by
  have hbrace : isBrace '\x7d' = true := rfl
  -- `found` is what the statements in front of the open one import: the brace keeps nothing else
  obtain ⟨found, hopen, hclosed⟩ := @reads_append_brace d _ hbrace (stripComments a.toList)
  have hwithout : scanImports (a ++ "\x7d" ++ b) d
      = found.map String.ofList ++ scanImports b d := by
    have htext : (a ++ "\x7d" ++ b).toList = a.toList ++ '\x7d' :: b.toList := by simp
    have hstrip := strip_append_cons (s := plain) ha (c := '\x7d') (by decide) (by decide) b.toList
    have hread : importsOf d (a ++ "\x7d" ++ b).toList = found ++ importsOf d b.toList := by
      rw [importsOf, stripComments, htext, hstrip]
      exact hclosed _
    rw [scanImports, hread, List.map_append]
    rfl
  have hwith : scanImports (a ++ ";\x7d" ++ b) d
      = found.map String.ofList ++ openImports d a ++ scanImports b d := by
    have htext : (a ++ ";\x7d" ++ b).toList = a.toList ++ ';' :: '\x7d' :: b.toList := by simp
    have hskip : importsOf d ('\x7d' :: b.toList) = importsOf d b.toList := reads_brace_cons hbrace _
    have hends : endsStatement d ';' = true := by simp [endsStatement]
    calc scanImports (a ++ ";\x7d" ++ b) d
        = (importsOf d a.toList).map String.ofList ++ scanImports b d := by
          rw [scanImports, htext, importsOf_append_of_ends hends ha, hskip, List.map_append]
          rfl
      _ = found.map String.ofList ++ openImports d a ++ scanImports b d := by
          rw [openImports, openStatement, ← List.map_append]
          exact congrArg (List.map String.ofList · ++ _) hopen
  refine ⟨?_, found.map String.ofList, ?_, hwithout, hwith⟩
  · rw [hwithout, hwith, List.append_left_inj]
    constructor
    · intro h
      exact List.append_right_eq_self.1 h.symm
    · intro h
      rw [h, List.append_nil]
  · rw [openImports, openStatement, ← List.map_append]
    exact congrArg (List.map String.ofList) hopen

/-- In nested blocks, with the semicolon left out behind a declaration and behind a comment. -/
theorem scanImports_closeBrace_iff_nested :
    Neutral "a \x7b b \x7b @import 'x'; c: d // ;\n" ∧
      scanImports ("a \x7b b \x7b @import 'x'; c: d // ;\n" ++ "\x7d" ++ "\x7d @use 'y'") .scss
        = ["x", "y"] := by
  have hneutral : Neutral "a \x7b b \x7b @import 'x'; c: d // ;\n" := by decide +kernel
  have hiff := (scanImports_closeBrace_iff .scss hneutral "\x7d @use 'y'").1
  refine ⟨hneutral, ?_⟩
  rw [hiff.2 (by decide +kernel)]
  decide +kernel

/-- The last import of a block is not found without its semicolon. -/
theorem scanImports_closeBrace_import :
    Neutral "a \x7b @import 'x' " ∧
      scanImports ("a \x7b @import 'x' " ++ "\x7d" ++ "") .scss = [] ∧
      scanImports ("a \x7b @import 'x' " ++ ";\x7d" ++ "") .scss = ["x"] := by
  refine ⟨?_, ?_, ?_⟩ <;> decide +kernel

end Stylesheet.Scan
