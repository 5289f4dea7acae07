import Stylesheet.Text.Hex

set_option autoImplicit false

/-! # Escapes in JSON strings

Between the quotes of a JSON string a quote, a backslash and a control character are written
as escapes. `escape` writes the short escape where there is one, four hexadecimal digits
where there is none, and every other character as itself; `unescape?` reads all escapes and
joins surrogate pairs, and reads back what `escape` wrote (`unescape?_escape`). A string whose
escapes are only spelled right (`isEscaped`) may still name half a surrogate pair.
-/

namespace Stylesheet.Json

/-- One character as it stands between quotes. -/
def escapeChar (c : Char) : List Char :=
  if c = '"' then ['\\', '"']
  else if c = '\\' then ['\\', '\\']
  else if c = '\n' then ['\\', 'n']
  else if c = '\r' then ['\\', 'r']
  else if c = '\t' then ['\\', 't']
  else if c.toNat = 8 then ['\\', 'b']
  else if c.toNat = 12 then ['\\', 'f']
  else if c.toNat < 0x20 then
    ['\\', 'u', '0', '0', Hex.lowerDigit (c.toNat / 16), Hex.lowerDigit (c.toNat % 16)]
  else [c]

def escape (cs : List Char) : List Char := cs.flatMap escapeChar

def shortEscape? (c : Char) : Option Char :=
  if c = '"' then some '"' else if c = '\\' then some '\\' else if c = '/' then some '/'
  else if c = 'b' then some (Char.ofNat 8) else if c = 'f' then some (Char.ofNat 12)
  else if c = 'n' then some '\n' else if c = 'r' then some '\r' else if c = 't' then some '\t'
  else none

def fourDigits? (a b c d : Char) : Option Nat := do
  let a ← Hex.value? a
  let b ← Hex.value? b
  let c ← Hex.value? c
  let d ← Hex.value? d
  return ((a * 16 + b) * 16 + c) * 16 + d

def isHighSurrogate (n : Nat) : Bool := 0xD800 ≤ n && n ≤ 0xDBFF

def isLowSurrogate (n : Nat) : Bool := 0xDC00 ≤ n && n ≤ 0xDFFF

/-- The text that stands between quotes; none if an escape is misspelled or a half of a
surrogate pair stands alone. -/
def unescape? : List Char → Option (List Char)
  | [] => some []
  | '\\' :: 'u' :: a :: b :: c :: d :: rest =>
    match fourDigits? a b c d with
    | none => none
    | some high =>
      if isHighSurrogate high then
        match rest with
        | '\\' :: 'u' :: e :: f :: g :: h :: rest =>
          match fourDigits? e f g h with
          | none => none
          | some low =>
            if isLowSurrogate low then
              (unescape? rest).map
                (Char.ofNat (0x10000 + (high - 0xD800) * 0x400 + (low - 0xDC00)) :: ·)
            else none
        | _ => none
      else if isLowSurrogate high then none
      else (unescape? rest).map (Char.ofNat high :: ·)
  | '\\' :: e :: rest =>
    match shortEscape? e with
    | none => none
    | some c => (unescape? rest).map (c :: ·)
  | c :: rest => if c = '\\' then none else (unescape? rest).map (c :: ·)

/-- Whether all escapes between quotes are spelled right. -/
def isEscaped : List Char → Bool
  | [] => true
  | '\\' :: 'u' :: a :: b :: c :: d :: rest => (fourDigits? a b c d).isSome && isEscaped rest
  | '\\' :: e :: rest => (shortEscape? e).isSome && isEscaped rest
  | c :: rest => c != '\\' && isEscaped rest

/-! ## Reading back -/

theorem unescape?_cons_of_ne {c : Char} (h : c ≠ '\\') (rest : List Char) :
    unescape? (c :: rest) = (unescape? rest).map (c :: ·) := by
  rw [unescape?.eq_def]
  split <;> simp_all

theorem unescape?_short {e c : Char} (hu : e ≠ 'u') (h : shortEscape? e = some c)
    (rest : List Char) : unescape? ('\\' :: e :: rest) = (unescape? rest).map (c :: ·) := by
  rw [unescape?.eq_def]
  split
  · simp_all
  · simp_all
  · simp_all
  · rename_i hne heq
    cases heq
    exact absurd rfl (fun h => hne e rest h rfl)

theorem fourDigits?_lowerDigits {n : Nat} (h : n < 0x20) :
    fourDigits? '0' '0' (Hex.lowerDigit (n / 16)) (Hex.lowerDigit (n % 16)) = some n := by
  have h0 : Hex.value? '0' = some 0 := by decide
  simp only [fourDigits?, h0, Hex.value?_lowerDigit (n / 16) (by omega),
    Hex.value?_lowerDigit (n % 16) (by omega), Option.bind_eq_bind, Option.bind_some,
    Option.pure_def, Option.some.injEq]
  omega

/-- The letters of the short escapes that are written. -/
def shortLetters : List Char := ['"', '\\', 'n', 'r', 't', 'b', 'f']

/-- A character is written as a short escape, with four digits or as itself. -/
theorem escapeChar_cases (c : Char) :
    (∃ e ∈ shortLetters, escapeChar c = ['\\', e] ∧ shortEscape? e = some c) ∨
    (c.toNat < 0x20 ∧ escapeChar c =
      ['\\', 'u', '0', '0', Hex.lowerDigit (c.toNat / 16), Hex.lowerDigit (c.toNat % 16)]) ∨
    (c ≠ '"' ∧ c ≠ '\\' ∧ ¬ c.toNat < 0x20 ∧ escapeChar c = [c]) := by
  have hc : Char.ofNat c.toNat = c := Char.ofNat_toNat c
  by_cases hquote : c = '"'
  · subst hquote; exact .inl ⟨'"', by decide, rfl, rfl⟩
  by_cases hescape : c = '\\'
  · subst hescape; exact .inl ⟨'\\', by decide, rfl, rfl⟩
  by_cases hline : c = '\n'
  · subst hline; exact .inl ⟨'n', by decide, rfl, rfl⟩
  by_cases hreturn : c = '\r'
  · subst hreturn; exact .inl ⟨'r', by decide, rfl, rfl⟩
  by_cases htab : c = '\t'
  · subst htab; exact .inl ⟨'t', by decide, rfl, rfl⟩
  by_cases hback : c.toNat = 8
  · rw [← hc, hback]; exact .inl ⟨'b', by decide, rfl, rfl⟩
  by_cases hfeed : c.toNat = 12
  · rw [← hc, hfeed]; exact .inl ⟨'f', by decide, rfl, rfl⟩
  have hlong : escapeChar c = if c.toNat < 0x20 then
      ['\\', 'u', '0', '0', Hex.lowerDigit (c.toNat / 16), Hex.lowerDigit (c.toNat % 16)]
      else [c] := by
    rw [escapeChar, if_neg hquote, if_neg hescape, if_neg hline, if_neg hreturn, if_neg htab,
      if_neg hback, if_neg hfeed]
  by_cases hcontrol : c.toNat < 0x20
  · exact .inr (.inl ⟨hcontrol, by rw [hlong, if_pos hcontrol]⟩)
  · exact .inr (.inr ⟨hquote, hescape, hcontrol, by rw [hlong, if_neg hcontrol]⟩)

theorem short_plain : ∀ e ∈ shortLetters, e ≠ 'u' ∧ ¬ e.toNat < 0x20 := by
  simp only [shortLetters, List.forall_mem_cons]
  exact ⟨by decide, by decide, by decide, by decide, by decide, by decide, by decide, by simp⟩

/-- One escaped character is read back. -/
theorem unescape?_escapeChar_append (c : Char) (rest : List Char) :
    unescape? (escapeChar c ++ rest) = (unescape? rest).map (c :: ·) := by
  obtain ⟨e, he, htext, hshort⟩ | ⟨hcontrol, htext⟩ | ⟨-, hescape, -, htext⟩ := escapeChar_cases c
  · rw [htext]
    exact unescape?_short (short_plain e he).1 hshort rest
  · have hs : isHighSurrogate c.toNat = false := by simp [isHighSurrogate]; omega
    have hl : isLowSurrogate c.toNat = false := by simp [isLowSurrogate]; omega
    simp [htext, unescape?, fourDigits?_lowerDigits hcontrol, hs, hl, Char.ofNat_toNat]
  · rw [htext]
    exact unescape?_cons_of_ne hescape rest

/-- Reading gives back the text that was escaped. -/
theorem unescape?_escape (cs : List Char) : unescape? (escape cs) = some cs := by
  induction cs with
  | nil => rfl
  | cons c cs ih =>
    have : escape (c :: cs) = escapeChar c ++ escape cs := rfl
    rw [this, unescape?_escapeChar_append, ih]
    rfl

end Stylesheet.Json
