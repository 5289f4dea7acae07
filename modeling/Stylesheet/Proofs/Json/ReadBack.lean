import Mathlib.Data.List.TakeWhile
import Stylesheet.Json.Parser
import Stylesheet.Json.Printer

set_option autoImplicit false

/-! # Documents are read back

A document made of strings, numbers, arrays and objects (`Made`) is read back from the text that
is written for it (`parse?_render`).

Reading has two stages, so a text *spells* a document if it is cut into tokens from which the
document is read, whatever follows (`Spells`). A bare word ends where a sign follows it or
nothing, so what follows has to start with a sign (`Stops`); between the brackets of a written
document that is always so.
-/

namespace Stylesheet.Json

/-! ## Tokens -/

section Steps

variable (c : Char) (read cs : List Char)

theorem tokensFrom_between_cons : tokensFrom .between (c :: cs) =
    if isSpace c then tokensFrom .between cs
    else if c = '"' then tokensFrom (.inQuoted []) cs
    else match sign? c with
      | some token => (tokensFrom .between cs).map (token :: ·)
      | none => tokensFrom (.inBare [c]) cs := rfl

theorem tokensFrom_inBare_cons : tokensFrom (.inBare read) (c :: cs) =
    if isSpace c then (tokensFrom .between cs).map (.bare read.reverse :: ·)
    else if c = '"' then (tokensFrom (.inQuoted []) cs).map (.bare read.reverse :: ·)
    else match sign? c with
      | some token => (tokensFrom .between cs).map fun ts => .bare read.reverse :: token :: ts
      | none => tokensFrom (.inBare (c :: read)) cs := rfl

theorem tokensFrom_inQuoted_eq : tokensFrom (.inQuoted read) (c :: cs) =
    if c = '"' then (tokensFrom .between cs).map (.quoted read.reverse :: ·)
    else if c.toNat < 0x20 then none
    else if c = '\\' then tokensFrom (.afterBackslash (c :: read)) cs
    else tokensFrom (.inQuoted (c :: read)) cs := rfl

theorem tokensFrom_afterBackslash_cons : tokensFrom (.afterBackslash read) (c :: cs) =
    if c.toNat < 0x20 then none else tokensFrom (.inQuoted (c :: read)) cs := rfl

end Steps

/-- A text in front of which a bare word ends. -/
def Stops (rest : List Char) : Prop := ∀ c ∈ rest.head?, (sign? c).isSome = true

/-- A text is cut into tokens where what follows it stops a word. -/
def Lexes (text : List Char) (tokens : List Token) : Prop :=
  ∀ rest, Stops rest → tokensFrom .between (text ++ rest) =
    (tokensFrom .between rest).map (tokens ++ ·)

theorem stops_nil : Stops [] := by simp [Stops]

theorem stops_cons {c : Char} (h : (sign? c).isSome = true) (rest : List Char) :
    Stops (c :: rest) := by simpa [Stops] using h

/-- A sign is neither a blank nor a quote. -/
theorem plain_of_sign {c : Char} {token : Token} (h : sign? c = some token) :
    isSpace c = false ∧ c ≠ '"' := by
  constructor
  · rw [← Bool.not_eq_true]
    intro hspace
    simp only [isSpace, Bool.or_eq_true, beq_iff_eq] at hspace
    rcases hspace with ((rfl | rfl) | rfl) | rfl <;> simp [sign?] at h
  · rintro rfl
    simp [sign?] at h

/-- A sign is a token wherever it stands between others. -/
theorem tokensFrom_sign {c : Char} {token : Token} (h : sign? c = some token) (rest : List Char) :
    tokensFrom .between (c :: rest) = (tokensFrom .between rest).map (token :: ·) := by
  obtain ⟨hspace, hquote⟩ := plain_of_sign h
  rw [tokensFrom_between_cons, hspace, if_neg Bool.false_ne_true, if_neg hquote, h]

theorem Lexes.append {a b : List Char} {as bs : List Token} (ha : Lexes a as) (hb : Lexes b bs)
    (hstop : ∀ rest, Stops rest → Stops (b ++ rest)) : Lexes (a ++ b) (as ++ bs) := by
  intro rest hrest
  calc tokensFrom .between (a ++ b ++ rest)
      = (tokensFrom .between (b ++ rest)).map (as ++ ·) := by
        rw [List.append_assoc, ha _ (hstop rest hrest)]
    _ = (tokensFrom .between rest).map fun ts => as ++ (bs ++ ts) := by
        rw [hb _ hrest, Option.map_map]
        rfl
    _ = (tokensFrom .between rest).map (as ++ bs ++ ·) := by simp only [List.append_assoc]

theorem lexes_sign {c : Char} {token : Token} (h : sign? c = some token) {b : List Char}
    {bs : List Token} (hb : Lexes b bs) : Lexes (c :: b) (token :: bs) := by
  intro rest hrest
  rw [List.cons_append, tokensFrom_sign h, hb _ hrest, Option.map_map]
  rfl

theorem lexes_nil : Lexes [] [] := by
  intro rest _
  simp

/-! ### Words -/

def IsBare (c : Char) : Prop := isSpace c = false ∧ c ≠ '"' ∧ sign? c = none

theorem tokensFrom_inBare {w : List Char} (hw : ∀ c ∈ w, IsBare c) (read : List Char)
    {rest : List Char} (hrest : Stops rest) :
    tokensFrom (.inBare read) (w ++ rest) =
      (tokensFrom .between rest).map (.bare (read.reverse ++ w) :: ·) := by
  induction w generalizing read with
  | nil =>
      cases rest with
      | nil =>
          rw [List.append_nil, List.append_nil]
          rfl
      | cons c rest =>
          obtain ⟨token, htoken⟩ := Option.isSome_iff_exists.1 (hrest c (by simp))
          obtain ⟨hspace, hquote⟩ := plain_of_sign htoken
          calc tokensFrom (.inBare read) (c :: rest)
              = (tokensFrom .between rest).map fun ts => .bare read.reverse :: token :: ts := by
                simp only [tokensFrom_inBare_cons, hspace, if_neg hquote, htoken, if_false,
                  Bool.false_eq_true]
            _ = (tokensFrom .between (c :: rest)).map (.bare read.reverse :: ·) := by
                rw [tokensFrom_sign htoken, Option.map_map]
                rfl
            _ = (tokensFrom .between (c :: rest)).map (.bare (read.reverse ++ []) :: ·) := by
                rw [List.append_nil]
  | cons c w ih =>
      obtain ⟨hspace, hquote, hsign⟩ := hw c (by simp)
      calc tokensFrom (.inBare read) (c :: (w ++ rest))
          = tokensFrom (.inBare (c :: read)) (w ++ rest) := by
            simp only [tokensFrom_inBare_cons, hspace, if_neg hquote, hsign, if_false,
              Bool.false_eq_true]
        _ = (tokensFrom .between rest).map (.bare ((c :: read).reverse ++ w) :: ·) :=
            ih (fun d hd => hw d (List.mem_cons_of_mem c hd)) (c :: read)
        _ = (tokensFrom .between rest).map (.bare (read.reverse ++ c :: w) :: ·) := by
            rw [List.reverse_cons, List.append_assoc, List.singleton_append]

theorem lexes_bare {w : List Char} (hne : w ≠ []) (hw : ∀ c ∈ w, IsBare c) :
    Lexes w [.bare w] := by
  intro rest hrest
  obtain ⟨c, w, rfl⟩ := List.exists_cons_of_ne_nil hne
  obtain ⟨hspace, hquote, hsign⟩ := hw c (by simp)
  calc tokensFrom .between (c :: (w ++ rest))
      = tokensFrom (.inBare [c]) (w ++ rest) := by
        simp only [tokensFrom_between_cons, hspace, if_neg hquote, hsign, if_false,
          Bool.false_eq_true]
    _ = (tokensFrom .between rest).map (.bare (c :: w) :: ·) :=
        tokensFrom_inBare (fun d hd => hw d (List.mem_cons_of_mem c hd)) [c] hrest

/-! ### Strings -/

/-- A character that stands for itself between quotes. -/
theorem tokensFrom_inQuoted_cons {c : Char} (hquote : c ≠ '"') (hcontrol : ¬ c.toNat < 0x20)
    (hescape : c ≠ '\\') (read rest : List Char) :
    tokensFrom (.inQuoted read) (c :: rest) = tokensFrom (.inQuoted (c :: read)) rest := by
  rw [tokensFrom_inQuoted_eq, if_neg hquote, if_neg hcontrol, if_neg hescape]

/-- A backslash takes the next character along. -/
theorem tokensFrom_inQuoted_backslash {e : Char} (he : ¬ e.toNat < 0x20) (read rest : List Char) :
    tokensFrom (.inQuoted read) ('\\' :: e :: rest) =
      tokensFrom (.inQuoted (e :: '\\' :: read)) rest := by
  calc tokensFrom (.inQuoted read) ('\\' :: e :: rest)
      = tokensFrom (.afterBackslash ('\\' :: read)) (e :: rest) := rfl
    _ = tokensFrom (.inQuoted (e :: '\\' :: read)) rest := by
        rw [tokensFrom_afterBackslash_cons, if_neg he]

theorem lowerDigit_plain : ∀ n < 16, Hex.lowerDigit n ≠ '"' ∧ ¬ (Hex.lowerDigit n).toNat < 0x20 ∧
    Hex.lowerDigit n ≠ '\\' := by decide

/-- An escaped character stays within its string. -/
theorem tokensFrom_escapeChar (c : Char) (read rest : List Char) :
    tokensFrom (.inQuoted read) (escapeChar c ++ rest) =
      tokensFrom (.inQuoted ((escapeChar c).reverse ++ read)) rest := by
  obtain ⟨e, he, htext, -⟩ | ⟨hdigits, htext⟩ | ⟨hquote, hescape, hcontrol, htext⟩ :=
    escapeChar_cases c
  · rw [htext]
    exact tokensFrom_inQuoted_backslash (short_plain e he).2 read rest
  · obtain ⟨hquote, hcontrol, hescape⟩ := lowerDigit_plain (c.toNat / 16) (by omega)
    obtain ⟨hquote', hcontrol', hescape'⟩ := lowerDigit_plain (c.toNat % 16) (by omega)
    have hzero : ∀ read rest : List Char, tokensFrom (.inQuoted read) ('0' :: rest) =
        tokensFrom (.inQuoted ('0' :: read)) rest :=
      tokensFrom_inQuoted_cons (by decide) (by decide) (by decide)
    rw [htext]
    calc tokensFrom (.inQuoted read) ('\\' :: 'u' :: '0' :: '0' ::
            Hex.lowerDigit (c.toNat / 16) :: Hex.lowerDigit (c.toNat % 16) :: rest)
        = tokensFrom (.inQuoted ('0' :: '0' :: 'u' :: '\\' :: read))
            (Hex.lowerDigit (c.toNat / 16) :: Hex.lowerDigit (c.toNat % 16) :: rest) := by
          rw [tokensFrom_inQuoted_backslash (by decide), hzero, hzero]
      _ = tokensFrom (.inQuoted (Hex.lowerDigit (c.toNat % 16) ::
            Hex.lowerDigit (c.toNat / 16) :: '0' :: '0' :: 'u' :: '\\' :: read)) rest := by
          rw [tokensFrom_inQuoted_cons hquote hcontrol hescape,
            tokensFrom_inQuoted_cons hquote' hcontrol' hescape']
  · rw [htext]
    exact tokensFrom_inQuoted_cons hquote hcontrol hescape read rest

theorem tokensFrom_escape (cs read rest : List Char) :
    tokensFrom (.inQuoted read) (escape cs ++ '"' :: rest) =
      (tokensFrom .between rest).map (.quoted (read.reverse ++ escape cs) :: ·) := by
  induction cs generalizing read with
  | nil =>
      calc tokensFrom (.inQuoted read) ('"' :: rest)
          = (tokensFrom .between rest).map (.quoted read.reverse :: ·) := rfl
        _ = (tokensFrom .between rest).map (.quoted (read.reverse ++ []) :: ·) := by
            rw [List.append_nil]
  | cons c cs ih =>
      have hcons : escape (c :: cs) = escapeChar c ++ escape cs := rfl
      calc tokensFrom (.inQuoted read) (escape (c :: cs) ++ '"' :: rest)
          = tokensFrom (.inQuoted ((escapeChar c).reverse ++ read)) (escape cs ++ '"' :: rest) := by
            rw [hcons, List.append_assoc, tokensFrom_escapeChar]
        _ = (tokensFrom .between rest).map
              (.quoted (((escapeChar c).reverse ++ read).reverse ++ escape cs) :: ·) := ih _
        _ = (tokensFrom .between rest).map (.quoted (read.reverse ++ escape (c :: cs)) :: ·) := by
            rw [List.reverse_append, List.reverse_reverse, List.append_assoc, hcons]

theorem lexes_quoted (cs : List Char) : Lexes (quoted (escape cs)) [.quoted (escape cs)] := by
  intro rest _
  have htext : quoted (escape cs) ++ rest = '"' :: (escape cs ++ '"' :: rest) := by simp [quoted]
  calc tokensFrom .between (quoted (escape cs) ++ rest)
      = tokensFrom (.inQuoted []) (escape cs ++ '"' :: rest) := by rw [htext]; rfl
    _ = (tokensFrom .between rest).map (.quoted (escape cs) :: ·) := tokensFrom_escape cs [] rest

theorem isEscaped_short : ∀ e ∈ shortLetters, ∀ rest,
    isEscaped ('\\' :: e :: rest) = isEscaped rest := by
  simp only [shortLetters, List.forall_mem_cons]
  exact ⟨fun _ => rfl, fun _ => rfl, fun _ => rfl, fun _ => rfl, fun _ => rfl, fun _ => rfl,
    fun _ => rfl, by simp⟩

/-- The escapes that are written are spelled right. -/
theorem isEscaped_escapeChar_append (c : Char) (rest : List Char) :
    isEscaped (escapeChar c ++ rest) = isEscaped rest := by
  obtain ⟨e, he, htext, -⟩ | ⟨hdigits, htext⟩ | ⟨-, hescape, -, htext⟩ := escapeChar_cases c
  · rw [htext]
    exact isEscaped_short e he rest
  · simp [htext, isEscaped, fourDigits?_lowerDigits hdigits]
  · rw [htext, List.singleton_append, isEscaped.eq_def]
    split <;> simp_all

theorem isEscaped_escape (cs : List Char) : isEscaped (escape cs) = true := by
  induction cs with
  | nil => rfl
  | cons c cs ih =>
      have hcons : escape (c :: cs) = escapeChar c ++ escape cs := rfl
      rw [hcons, isEscaped_escapeChar_append, ih]

/-! ## Documents -/

/-- A document is written as text that is cut into tokens from which it is read, whatever follows.
The first argument of `value?` bounds the nesting; twice the number of tokens is enough. -/
structure Spells (j : Json) (tokens : List Token) : Prop where
  lexes : Lexes j.render tokens
  value : ∀ n rest, 2 * tokens.length ≤ n + 1 → value? n (tokens ++ rest) = some (j, rest)
  starts : ∃ token more, tokens = token :: more ∧ token ≠ .closeBracket

/-- The same of documents between commas, read as the items of an array. -/
structure SpellsItems (js : List Json) (tokens : List Token) : Prop where
  lexes : Lexes (commaSeparated (renderItems js)) tokens
  items : ∀ n rest, 2 * tokens.length ≤ n →
    items? n (tokens ++ .closeBracket :: rest) = some (js, rest)
  starts : ∃ token more, tokens = token :: more ∧ token ≠ .closeBracket

/-- The same of keys and values between commas, read as the members of an object. -/
structure SpellsMembers (ms : List (List Char × Json)) (tokens : List Token) : Prop where
  lexes : Lexes (commaSeparated (renderMembers ms)) tokens
  members : ∀ n rest, 2 * tokens.length ≤ n →
    objectMembers? n (tokens ++ .closeBrace :: rest) = some (ms, rest)
  starts : ∃ token more, tokens = token :: more ∧ token ≠ .closeBrace

section Steps

variable (n : Nat) (text : List Char) (tokens : List Token)

theorem value?_bare : value? (n + 1) (.bare text :: tokens) = (ofBare? text).map (·, tokens) := rfl

theorem value?_quoted : value? (n + 1) (.quoted text :: tokens) =
    if isEscaped text then some (.string text, tokens) else none := rfl

theorem items?_succ : items? (n + 1) tokens =
    match value? n tokens with
    | some (j, .closeBracket :: rest) => some ([j], rest)
    | some (j, .comma :: rest) => (items? n rest).map fun (js, rest) => (j :: js, rest)
    | _ => none := rfl

theorem objectMembers?_member : objectMembers? (n + 1) (.quoted text :: .colon :: tokens) =
    if isEscaped text then
      match value? n tokens with
      | some (j, .closeBrace :: rest) => some ([(text, j)], rest)
      | some (j, .comma :: rest) =>
        (objectMembers? n rest).map fun (ms, rest) => ((text, j) :: ms, rest)
      | _ => none
    else none := rfl

end Steps

theorem spells_word {j : Json} (hne : j.render ≠ []) (hw : ∀ c ∈ j.render, IsBare c)
    (hj : ofBare? j.render = some j) : Spells j [.bare j.render] where
  lexes := lexes_bare hne hw
  value n rest hn := by
    obtain ⟨m, rfl⟩ := Nat.exists_eq_add_of_le' (show 1 ≤ n by simpa using hn)
    rw [List.singleton_append, value?_bare, hj]
    rfl
  starts := ⟨_, _, rfl, by simp⟩

theorem spells_string (cs : List Char) :
    Spells (.string (escape cs)) [.quoted (escape cs)] where
  lexes := by
    rw [render]
    exact lexes_quoted cs
  value n rest hn := by
    obtain ⟨m, rfl⟩ := Nat.exists_eq_add_of_le' (show 1 ≤ n by simpa using hn)
    rw [List.singleton_append, value?_quoted, if_pos (isEscaped_escape cs)]
  starts := ⟨_, _, rfl, by simp⟩

/-- A text with a comma after it. -/
theorem Lexes.comma {a b : List Char} {as bs : List Token} (ha : Lexes a as) (hb : Lexes b bs) :
    Lexes (a ++ ',' :: b) (as ++ .comma :: bs) :=
  ha.append (lexes_sign rfl hb) fun rest _ => stops_cons rfl (b ++ rest)

/-- A text with a sign after it. -/
theorem Lexes.close {a : List Char} {as : List Token} (ha : Lexes a as) {c : Char} {token : Token}
    (hc : sign? c = some token) : Lexes (a ++ [c]) (as ++ [token]) :=
  ha.append (lexes_sign hc lexes_nil) fun rest _ => stops_cons (by rw [hc]; rfl) rest

theorem exists_spellsItems {js : List Json} (hjs : ∀ j ∈ js, ∃ tokens, Spells j tokens)
    (hne : js ≠ []) : ∃ tokens, SpellsItems js tokens := by
  induction js with
  | nil => exact absurd rfl hne
  | cons j js ih =>
      obtain ⟨ts, hj⟩ := hjs j (by simp)
      cases js with
      | nil =>
          refine ⟨ts, ?_, fun n rest hn => ?_, hj.starts⟩
          · exact hj.lexes
          · obtain ⟨token, more, hts, -⟩ := hj.starts
            have hlen : 1 ≤ ts.length := by simp [hts]
            obtain ⟨m, rfl⟩ := Nat.exists_eq_add_of_le' (show 1 ≤ n by omega)
            rw [items?_succ, hj.value m _ (by omega)]
      | cons k js =>
          obtain ⟨us, hjs'⟩ := ih (fun i hi => hjs i (List.mem_cons_of_mem j hi)) (by simp)
          refine ⟨ts ++ .comma :: us, hj.lexes.comma hjs'.lexes, fun n rest hn => ?_, ?_⟩
          · simp only [List.length_append, List.length_cons] at hn
            obtain ⟨m, rfl⟩ := Nat.exists_eq_add_of_le' (show 1 ≤ n by omega)
            have hfirst := hj.value m (.comma :: (us ++ .closeBracket :: rest)) (by omega)
            calc items? (m + 1) (ts ++ .comma :: us ++ .closeBracket :: rest)
                = items? (m + 1) (ts ++ .comma :: (us ++ .closeBracket :: rest)) := by
                  rw [List.append_assoc, List.cons_append]
              _ = (items? m (us ++ .closeBracket :: rest)).map fun (js, rest) => (j :: js, rest) := by
                  rw [items?_succ, hfirst]
              _ = some (j :: k :: js, rest) := by
                  rw [hjs'.items m rest (by omega)]
                  rfl
          · obtain ⟨token, more, rfl, hne⟩ := hj.starts
            exact ⟨token, _, rfl, hne⟩

theorem exists_spellsMembers {ms : List (String × Json)}
    (hms : ∀ m ∈ ms, ∃ tokens, Spells m.2 tokens) (hne : ms ≠ []) :
    ∃ tokens, SpellsMembers (ms.map fun m => member m.1 m.2) tokens := by
  induction ms with
  | nil => exact absurd rfl hne
  | cons m ms ih =>
      obtain ⟨ts, hm⟩ := hms m (by simp)
      have hkey : Lexes (quoted (escape m.1.toList) ++ ':' :: m.2.render)
          ([.quoted (escape m.1.toList)] ++ .colon :: ts) :=
        (lexes_quoted _).append (lexes_sign rfl hm.lexes) fun rest _ => stops_cons rfl _
      have hescaped := isEscaped_escape m.1.toList
      cases ms with
      | nil =>
          refine ⟨_, hkey, fun n rest hn => ?_, ⟨_, _, rfl, by simp⟩⟩
          simp only [List.length_append, List.length_cons, List.length_nil] at hn
          obtain ⟨k, rfl⟩ := Nat.exists_eq_add_of_le' (show 1 ≤ n by omega)
          have hvalue := hm.value k (.closeBrace :: rest) (by omega)
          calc objectMembers? (k + 1)
                ([.quoted (escape m.1.toList)] ++ .colon :: ts ++ .closeBrace :: rest)
              = objectMembers? (k + 1)
                  (.quoted (escape m.1.toList) :: .colon :: (ts ++ .closeBrace :: rest)) := rfl
            _ = some ([member m.1 m.2], rest) := by
                rw [objectMembers?_member, if_pos hescaped, hvalue]
                rfl
      | cons m' ms =>
          obtain ⟨us, hms'⟩ := ih (fun i hi => hms i (List.mem_cons_of_mem m hi)) (by simp)
          refine ⟨_, hkey.comma hms'.lexes, fun n rest hn => ?_, ⟨_, _, rfl, by simp⟩⟩
          simp only [List.length_append, List.length_cons, List.length_nil] at hn
          obtain ⟨k, rfl⟩ := Nat.exists_eq_add_of_le' (show 1 ≤ n by omega)
          have hvalue := hm.value k (.comma :: (us ++ .closeBrace :: rest)) (by omega)
          calc objectMembers? (k + 1) ([.quoted (escape m.1.toList)] ++ .colon :: ts ++ .comma :: us
                ++ .closeBrace :: rest)
              = objectMembers? (k + 1) (.quoted (escape m.1.toList) :: .colon ::
                  (ts ++ .comma :: (us ++ .closeBrace :: rest))) := by simp
            _ = (objectMembers? k (us ++ .closeBrace :: rest)).map fun (ms, rest) =>
                  (member m.1 m.2 :: ms, rest) := by
                rw [objectMembers?_member, if_pos hescaped, hvalue]
                rfl
            _ = some ((m :: m' :: ms).map fun m => member m.1 m.2, rest) := by
                rw [hms'.members k rest (by omega)]
                rfl

/-- A document between two signs, which is read by what stands between them. -/
theorem spells_enclosed {j : Json} {left right : Char} {opening closing : Token}
    {inner : List Char} {ts : List Token} (hleft : sign? left = some opening)
    (hright : sign? right = some closing) (hopening : opening ≠ .closeBracket)
    (htext : j.render = left :: (inner ++ [right])) (hinner : Lexes inner ts)
    (hvalue : ∀ n rest, 2 * ts.length ≤ n →
      value? (n + 1) (opening :: (ts ++ closing :: rest)) = some (j, rest)) :
    Spells j (opening :: (ts ++ [closing])) where
  lexes := htext ▸ lexes_sign hleft (hinner.close hright)
  value n rest hn := by
    simp only [List.length_append, List.length_cons, List.length_nil] at hn
    obtain ⟨m, rfl⟩ := Nat.exists_eq_add_of_le' (show 1 ≤ n by omega)
    rw [List.cons_append, List.append_assoc, List.singleton_append]
    exact hvalue m rest (by omega)
  starts := ⟨_, _, rfl, hopening⟩

/-- Unless the closing sign comes at once, the parts up to it are read and put together. -/
theorem value?_of_parts {α : Type} {opening closing : Token} {read? : List Token →
    Option (α × List Token)} {make : α → Json} {n : Nat} {ts rest : List Token} {parts : α}
    (hopening : ∀ token more, token ≠ closing → value? (n + 1) (opening :: token :: more) =
      (read? (token :: more)).map fun (parts, rest) => (make parts, rest))
    (hstarts : ∃ token more, ts = token :: more ∧ token ≠ closing)
    (hparts : read? (ts ++ closing :: rest) = some (parts, rest)) :
    value? (n + 1) (opening :: (ts ++ closing :: rest)) = some (make parts, rest) := by
  obtain ⟨token, more, rfl, hne⟩ := hstarts
  rw [List.cons_append] at hparts ⊢
  rw [hopening token _ hne, hparts]
  rfl

theorem spells_array {js : List Json} (hjs : ∀ j ∈ js, ∃ tokens, Spells j tokens) :
    ∃ tokens, Spells (.array js) tokens := by
  by_cases hne : js = []
  · subst hne
    exact ⟨[.openBracket, .closeBracket],
      spells_enclosed rfl rfl (by simp) rfl lexes_nil fun _ _ _ => rfl⟩
  · obtain ⟨ts, hts⟩ := exists_spellsItems hjs hne
    refine ⟨.openBracket :: (ts ++ [.closeBracket]), spells_enclosed rfl rfl (by simp)
      (by rw [render]; rfl) hts.lexes fun n rest hn =>
        value?_of_parts (fun token more htoken => ?_) hts.starts (hts.items n rest hn)⟩
    cases token with
    | closeBracket => exact absurd rfl htoken
    | _ => rfl

theorem spells_object {ms : List (String × Json)} (hms : ∀ m ∈ ms, ∃ tokens, Spells m.2 tokens) :
    ∃ tokens, Spells (.object (ms.map fun m => member m.1 m.2)) tokens := by
  by_cases hne : ms = []
  · subst hne
    exact ⟨[.openBrace, .closeBrace],
      spells_enclosed rfl rfl (by simp) rfl lexes_nil fun _ _ _ => rfl⟩
  · obtain ⟨ts, hts⟩ := exists_spellsMembers hms hne
    refine ⟨.openBrace :: (ts ++ [.closeBrace]), spells_enclosed rfl rfl (by simp)
      (by rw [render]; rfl) hts.lexes fun n rest hn =>
        value?_of_parts (fun token more htoken => ?_) hts.starts (hts.members n rest hn)⟩
    cases token with
    | closeBrace => exact absurd rfl htoken
    | _ => rfl

/-! ## Numbers -/

/-- The first digit of a number is a zero only if it is the only one. -/
theorem exists_toDigits {n : Nat} (hn : 0 < n) :
    ∃ c cs, Nat.toDigits 10 n = c :: cs ∧ c ≠ '0' := by
  induction n using Nat.strongRecOn with
  | ind n ih =>
      rw [Nat.toDigits_eq_if (by decide)]
      split
      · exact ⟨_, _, rfl, by simp; omega⟩
      · obtain ⟨c, cs, hdigits, hc⟩ := ih (n / 10) (by omega) (by omega)
        exact ⟨c, _, by rw [hdigits, List.cons_append], hc⟩

theorem isDigit_of_mem_toDigits {n : Nat} {c : Char} (h : c ∈ Nat.toDigits 10 n) :
    c.isDigit = true :=
  Nat.isDigit_of_mem_toDigits (by decide) (by decide) h

/-- Characters that a class tells apart are different. -/
theorem ne_of_class {p : Char → Bool} {c d : Char} (hc : p c = true) (hd : p d = false) :
    c ≠ d := by
  rintro rfl
  rw [hc] at hd
  cases hd

theorem isBare_of_isAlphanum {c : Char} (h : c.isAlphanum = true) : IsBare c := by
  have hne : ∀ d : Char, d.isAlphanum = false → c ≠ d := fun d => ne_of_class h
  have hspace : isSpace c = false := by
    simp [isSpace, hne ' ' (by decide), hne '\n' (by decide), hne '\t' (by decide),
      hne '\r' (by decide)]
  refine ⟨hspace, hne '"' (by decide), ?_⟩
  simp [sign?, hne '\x7b' (by decide), hne '\x7d' (by decide), hne '[' (by decide),
    hne ']' (by decide), hne ':' (by decide), hne ',' (by decide)]

theorem isBare_of_isDigit {c : Char} (h : c.isDigit = true) : IsBare c :=
  isBare_of_isAlphanum (by simp [Char.isAlphanum, h])

theorem isWhole_toDigits (n : Nat) : isWhole (Nat.toDigits 10 n) = true := by
  rcases Nat.eq_zero_or_pos n with rfl | hn
  · rfl
  · have hall : (Nat.toDigits 10 n).all Char.isDigit = true :=
      List.all_eq_true.2 fun c => isDigit_of_mem_toDigits
    obtain ⟨c, cs, hdigits, hc⟩ := exists_toDigits hn
    rw [hdigits] at hall ⊢
    rw [isWhole.eq_def]
    split <;> simp_all

/-- The digits of a number are a number. -/
theorem isNumber_toDigits (n : Nat) : isNumber (Nat.toDigits 10 n) = true := by
  have hne : ∀ d : Char, d.isDigit = false → ∀ c ∈ Nat.toDigits 10 n, c ≠ d :=
    fun d hd c hc => ne_of_class (isDigit_of_mem_toDigits hc) hd
  have hunsigned : unsigned (Nat.toDigits 10 n) = Nat.toDigits 10 n := by
    unfold unsigned
    split
    · next cs h => exact absurd rfl (hne '-' (by decide) '-' (by simp [h]))
    · rfl
  have hexponent : cutExponent (Nat.toDigits 10 n) = (Nat.toDigits 10 n, none) := by
    rw [cutExponent, List.dropWhile_eq_nil_iff.2]
    intro c hc
    simp [hne 'e' (by decide) c hc, hne 'E' (by decide) c hc]
  have hpoint : cutPoint (Nat.toDigits 10 n) = (Nat.toDigits 10 n, none) := by
    rw [cutPoint, List.dropWhile_eq_nil_iff.2]
    intro c hc
    simp [hne '.' (by decide) c hc]
  rw [isNumber, hunsigned, hexponent]
  simp [hpoint, isWhole_toDigits]

theorem spells_ofNat (n : Nat) : Spells (.ofNat n) [.bare (Nat.toDigits 10 n)] := by
  have hbare : ∀ c ∈ Nat.toDigits 10 n, IsBare c :=
    fun c hc => isBare_of_isDigit (isDigit_of_mem_toDigits hc)
  -- no word of JSON begins with a digit
  have hword : ∀ c cs, c.isDigit = false → Nat.toDigits 10 n ≠ c :: cs := by
    intro c cs hc h
    exact ne_of_class (isDigit_of_mem_toDigits (h ▸ List.mem_cons_self)) hc rfl
  have hread : ofBare? (Nat.toDigits 10 n) = some (.number (Nat.toDigits 10 n)) := by
    rw [ofBare?, if_neg (hword _ _ (by decide)), if_neg (hword _ _ (by decide)),
      if_neg (hword _ _ (by decide)), if_pos (isNumber_toDigits n)]
  have hspells : Spells (.number (Nat.toDigits 10 n)) [.bare (render (.number _))] :=
    spells_word (by rw [render]; exact Nat.toDigits_ne_nil) (by rw [render]; exact hbare)
      (by rw [render]; exact hread)
  rw [render] at hspells
  exact hspells

/-! ## Documents that are made -/

/-- A document made of words, numbers, strings, arrays and objects. -/
inductive Made : Json → Prop
  | null : Made .null
  | bool (b : Bool) : Made (.bool b)
  | ofNat (n : Nat) : Made (.ofNat n)
  | ofString (s : String) : Made (.ofString s)
  | array {js : List Json} (items : ∀ j ∈ js, Made j) : Made (.array js)
  | object {ms : List (String × Json)} (values : ∀ m ∈ ms, Made m.2) :
    Made (.object (ms.map fun m => member m.1 m.2))

theorem Made.exists_spells {j : Json} (h : Made j) : ∃ tokens, Spells j tokens := by
  have hbare : ∀ w : List Char, w.all Char.isAlphanum = true → ∀ c ∈ w, IsBare c :=
    fun w hw c hc => isBare_of_isAlphanum (List.all_eq_true.1 hw c hc)
  induction h with
  | null => exact ⟨_, spells_word (by decide) (hbare _ (by decide)) rfl⟩
  | bool b =>
      cases b with
      | true => exact ⟨_, spells_word (by decide) (hbare _ (by decide)) rfl⟩
      | false => exact ⟨_, spells_word (by decide) (hbare _ (by decide)) rfl⟩
  | ofNat n => exact ⟨_, spells_ofNat n⟩
  | ofString s => exact ⟨_, spells_string s.toList⟩
  | array items ih => exact spells_array ih
  | object values ih => exact spells_object ih

/-- **What is written for a document is read back as that document.** -/
theorem Made.parse?_render {j : Json} (h : Made j) : parse? j.render = some j := by
  obtain ⟨tokens, hj⟩ := h.exists_spells
  have hlex := hj.lexes [] stops_nil
  have hvalue := hj.value (2 * tokens.length + 1) [] (by omega)
  rw [List.append_nil] at hlex hvalue
  have htokens : tokensFrom .between j.render = some tokens := by
    have hend : tokensFrom .between [] = some [] := rfl
    rw [hlex, hend]
    simp
  rw [parse?, htokens]
  simp only [hvalue]

end Stylesheet.Json
