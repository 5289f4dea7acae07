set_option autoImplicit false

/-! # Cutting texts at separators

A text is a list, of characters or of bytes. `pieces` cuts it at every separator, and `join`
puts pieces back together; the two undo each other for a single separator
(`join_pieces`). The other functions trim a text at its ends or find a word in it.
-/

namespace Stylesheet.Text

variable {α : Type}

/-- The pieces of a text between its separators; a text without one is its only piece. -/
def pieces (sep : α → Bool) : List α → List (List α)
  | [] => [[]]
  | a :: as =>
    if sep a then [] :: pieces sep as
    else match pieces sep as with
      | [] => [[a]]
      | p :: ps => (a :: p) :: ps

/-- The pieces written one after the other with `s` between them. -/
def join (s : α) : List (List α) → List α
  | [] => []
  | [p] => p
  | p :: q :: ps => p ++ s :: join s (q :: ps)

/-- A text without what `p` holds of at its end. -/
def dropEndWhile (p : α → Bool) (as : List α) : List α :=
  (as.reverse.dropWhile p).reverse

/-- What follows the last element that `p` holds of; the whole text if there is none. -/
def afterLast (p : α → Bool) (as : List α) : List α :=
  (as.reverse.takeWhile (fun a => !p a)).reverse

/-- A text without what `p` holds of at either end. -/
def trimWhile (p : α → Bool) (as : List α) : List α :=
  dropEndWhile p (as.dropWhile p)

section Words

variable [DecidableEq α]

/-- The rest of a text after the word `w`, if the text starts with it. -/
def after? : List α → List α → Option (List α)
  | [], as => some as
  | _ :: _, [] => none
  | w :: ws, a :: as => if w = a then after? ws as else none

/-- The text before and the text after the first place where the word `w` stands. -/
def cutAt? (w : List α) : List α → Option (List α × List α)
  | [] => (after? w []).map ([], ·)
  | a :: as =>
    match after? w (a :: as) with
    | some rest => some ([], rest)
    | none => (cutAt? w as).map fun (before, rest) => (a :: before, rest)

/-- The text before and the text after the last place where the word `w` stands. -/
def cutAtLast? (w : List α) : List α → Option (List α × List α)
  | [] => (after? w []).map ([], ·)
  | a :: as =>
    match cutAtLast? w as with
    | some (before, rest) => some (a :: before, rest)
    | none => (after? w (a :: as)).map ([], ·)

/-- Whether the word `w` stands somewhere in a text. -/
def occursIn (w as : List α) : Bool := (cutAt? w as).isSome

/-- Every place where the word `w` stands, read from the left and without overlaps, replaced
by `r`. The empty word stands before every element and at the end. The first argument bounds
the number of places; a text has at most one more than its length. -/
def replaceUpTo (w r : List α) : Nat → List α → List α
  | 0, as => as
  | n + 1, as =>
    match cutAt? w as with
    | none => as
    | some (before, rest) =>
      match w, rest with
      | [], [] => before ++ r
      | [], a :: rest => before ++ r ++ a :: replaceUpTo w r n rest
      | _ :: _, rest => before ++ r ++ replaceUpTo w r n rest

def replaceAll (w r as : List α) : List α := replaceUpTo w r (as.length + 1) as

end Words

/-! ## Laws -/

theorem pieces_ne_nil (sep : α → Bool) (as : List α) : pieces sep as ≠ [] := by
  cases as with
  | nil => simp [pieces]
  | cons a as => grind [pieces]

/-- A text is its pieces with the separator put back. -/
theorem join_pieces [BEq α] [LawfulBEq α] (s : α) (as : List α) :
    join s (pieces (· == s) as) = as := by
  induction as with
  | nil => rfl
  | cons a as ih =>
    have hne := pieces_ne_nil (· == s) as
    by_cases h : a = s
    · subst h
      cases hp : pieces (· == a) as with
      | nil => exact absurd hp hne
      | cons p ps => simp_all [pieces, join]
    · cases hp : pieces (· == s) as with
      | nil => exact absurd hp hne
      | cons p ps => cases ps <;> simp_all [pieces, join]

/-- No piece holds a separator. -/
theorem not_sep_of_mem_pieces {sep : α → Bool} {as p : List α} {a : α}
    (hp : p ∈ pieces sep as) (ha : a ∈ p) : sep a = false := by
  induction as generalizing p with
  | nil => simp_all [pieces]
  | cons b as ih =>
    cases hb : pieces sep as with
    | nil => exact absurd hb (pieces_ne_nil sep as)
    | cons q qs =>
      by_cases hs : sep b = true
      · rcases List.mem_cons.1 (by simpa [pieces, hs] using hp) with rfl | h
        · cases ha
        · exact ih h ha
      · rcases List.mem_cons.1 (by simpa [pieces, hs, hb] using hp) with rfl | h
        · rcases List.mem_cons.1 ha with rfl | ha
          · simpa using hs
          · exact ih (p := q) (by simp [hb]) ha
        · exact ih (p := p) (by simp [hb, h]) ha

theorem cutAt?_cons [DecidableEq α] (w : List α) (a : α) (as : List α) : cutAt? w (a :: as) =
    match after? w (a :: as) with
    | some rest => some ([], rest)
    | none => (cutAt? w as).map fun (before, rest) => (a :: before, rest) := rfl

theorem cutAtLast?_cons [DecidableEq α] (w : List α) (a : α) (as : List α) :
    cutAtLast? w (a :: as) =
      match cutAtLast? w as with
      | some (before, rest) => some (a :: before, rest)
      | none => (after? w (a :: as)).map ([], ·) := rfl

theorem after?_eq_some_iff [DecidableEq α] {w as rest : List α} :
    after? w as = some rest ↔ as = w ++ rest := by
  induction w generalizing as with
  | nil => simp [after?]
  | cons x w ih =>
    cases as with
    | nil => simp [after?]
    | cons a as => by_cases h : x = a <;> grind [after?]

end Stylesheet.Text
