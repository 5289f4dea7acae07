set_option autoImplicit false

/-! # UTF-8

`encode` writes characters as bytes. `decodeLossy` reads bytes back; where they are not UTF-8
it puts one replacement character for every longest beginning of a character that breaks off,
or for a single byte that begins none. What `encode` wrote is read back unchanged
(`decodeLossy_encode_append`, `decodeLossy_encode`), and an ASCII byte cuts bytes in two that are
read on their own (`decodeLossy_append_ascii`).
-/

namespace Stylesheet.Utf8

def encode (cs : List Char) : List UInt8 := cs.flatMap String.utf8EncodeChar

def ofString (s : String) : List UInt8 := encode s.toList

/-- The character put in place of bytes that are not UTF-8. -/
def replacement : Char := '\uFFFD'

def isContinuation (b : UInt8) : Bool := 0x80 ≤ b.toNat && b.toNat ≤ 0xBF

/-- Whether `b` may be the second byte after the first byte `a` of a character of three
bytes: shorter spellings and surrogates are left out. -/
def second3 (a b : UInt8) : Bool :=
  isContinuation b && (a.toNat != 0xE0 || 0xA0 ≤ b.toNat) && (a.toNat != 0xED || b.toNat ≤ 0x9F)

/-- Whether `b` may be the second byte after the first byte `a` of a character of four bytes:
shorter spellings and numbers beyond the last character are left out. -/
def second4 (a b : UInt8) : Bool :=
  isContinuation b && (a.toNat != 0xF0 || 0x90 ≤ b.toNat) && (a.toNat != 0xF4 || b.toNat ≤ 0x8F)

def char2 (a b : UInt8) : Char := Char.ofNat ((a.toNat - 0xC0) * 64 + (b.toNat - 0x80))

def char3 (a b c : UInt8) : Char :=
  Char.ofNat ((a.toNat - 0xE0) * 4096 + (b.toNat - 0x80) * 64 + (c.toNat - 0x80))

def char4 (a b c d : UInt8) : Char :=
  Char.ofNat ((a.toNat - 0xF0) * 262144 + (b.toNat - 0x80) * 4096 + (c.toNat - 0x80) * 64
    + (d.toNat - 0x80))

/-- The first character of some bytes, and how many bytes after the first belong to it. -/
def first (a : UInt8) (rest : List UInt8) : Char × Nat :=
  if a.toNat < 0x80 then (Char.ofNat a.toNat, 0)
  else if 0xC2 ≤ a.toNat && a.toNat ≤ 0xDF then
    match rest with
    | b :: _ => if isContinuation b then (char2 a b, 1) else (replacement, 0)
    | [] => (replacement, 0)
  else if 0xE0 ≤ a.toNat && a.toNat ≤ 0xEF then
    match rest with
    | b :: c :: _ =>
      if second3 a b then
        if isContinuation c then (char3 a b c, 2) else (replacement, 1)
      else (replacement, 0)
    | [b] => (replacement, if second3 a b then 1 else 0)
    | [] => (replacement, 0)
  else if 0xF0 ≤ a.toNat && a.toNat ≤ 0xF4 then
    match rest with
    | b :: c :: d :: _ =>
      if second4 a b then
        if isContinuation c then
          if isContinuation d then (char4 a b c d, 3) else (replacement, 2)
        else (replacement, 1)
      else (replacement, 0)
    | [b, c] => (replacement, if second4 a b then if isContinuation c then 2 else 1 else 0)
    | [b] => (replacement, if second4 a b then 1 else 0)
    | [] => (replacement, 0)
  else (replacement, 0)

/-- The text that some bytes spell, with replacement characters for what is not UTF-8. -/
def decodeLossy : List UInt8 → List Char
  | [] => []
  | a :: rest => (first a rest).1 :: decodeLossy (rest.drop (first a rest).2)
termination_by bytes => bytes.length
decreasing_by simp only [List.length_drop, List.length_cons]; omega

def toStringLossy (bytes : List UInt8) : String := String.ofList (decodeLossy bytes)

/-- Whether bytes are UTF-8: then nothing is lost by reading them as text. -/
def isValid (bytes : List UInt8) : Bool := encode (decodeLossy bytes) == bytes

/-! ## Reading back -/

@[simp] theorem encode_nil : encode [] = [] := rfl

@[simp] theorem encode_cons (c : Char) (cs : List Char) :
    encode (c :: cs) = String.utf8EncodeChar c ++ encode cs := rfl

@[simp] theorem encode_append (as bs : List Char) : encode (as ++ bs) = encode as ++ encode bs := by
  simp [encode]

/-- The bytes of a character begin with one byte from which, and from what follows it, the
character and the number of its bytes are read off. -/
theorem first_utf8EncodeChar (c : Char) (rest : List UInt8) :
    ∃ a more, String.utf8EncodeChar c = a :: more ∧ first a (more ++ rest) = (c, more.length) := by
  have hv : c.toNat < 0xD800 ∨ (0xDFFF < c.toNat ∧ c.toNat < 0x110000) := c.valid
  have hc : Char.ofNat c.toNat = c := Char.ofNat_toNat c
  have hval : c.val.toNat = c.toNat := rfl
  rw [String.utf8EncodeChar.eq_1, hval]
  generalize c.toNat = v at *
  split
  · refine ⟨_, _, rfl, ?_⟩
    have : v % 256 = v := by omega
    simp [first, this, hc]; omega
  · split
    · refine ⟨_, _, rfl, ?_⟩
      have ha : (v / 64 % 32 + 192) % 256 = v / 64 + 192 := by omega
      have hb : (v % 64 + 128) % 256 = v % 64 + 128 := by omega
      have : v / 64 * 64 + v % 64 = v := by omega
      have h1 : ¬ v / 64 + 192 < 128 := by omega
      have h2 : 194 ≤ v / 64 + 192 := by omega
      have h3 : v / 64 + 192 ≤ 223 := by omega
      have h4 : v % 64 + 128 ≤ 191 := by omega
      simp [first, isContinuation, char2, ha, hb, this, hc, h1, h2, h3, h4]
    · split
      · refine ⟨_, _, rfl, ?_⟩
        have ha : (v / 4096 % 16 + 224) % 256 = v / 4096 + 224 := by omega
        have hb : (v / 64 % 64 + 128) % 256 = v / 64 % 64 + 128 := by omega
        have hd : (v % 64 + 128) % 256 = v % 64 + 128 := by omega
        have : v / 4096 * 4096 + v / 64 % 64 * 64 + v % 64 = v := by omega
        have h1 : ¬ v / 4096 + 224 < 128 := by omega
        have h2 : ¬ v / 4096 + 224 ≤ 223 := by omega
        have h3 : 224 ≤ v / 4096 + 224 := by omega
        have h4 : v / 4096 + 224 ≤ 239 := by omega
        have h5 : v / 64 % 64 + 128 ≤ 191 := by omega
        have h6 : v % 64 + 128 ≤ 191 := by omega
        have h7 : ¬ v / 4096 + 224 = 224 ∨ 160 ≤ v / 64 % 64 + 128 := by omega
        have h8 : ¬ v / 4096 + 224 = 237 ∨ v / 64 % 64 + 128 ≤ 159 := by omega
        simp [first, second3, isContinuation, char3, ha, hb, hd, this, hc, h1, h2, h3, h4, h5, h6]
        grind
      · refine ⟨_, _, rfl, ?_⟩
        have ha : (v / 262144 % 8 + 240) % 256 = v / 262144 + 240 := by omega
        have hb : (v / 4096 % 64 + 128) % 256 = v / 4096 % 64 + 128 := by omega
        have hd : (v / 64 % 64 + 128) % 256 = v / 64 % 64 + 128 := by omega
        have he : (v % 64 + 128) % 256 = v % 64 + 128 := by omega
        have : v / 262144 * 262144 + v / 4096 % 64 * 4096 + v / 64 % 64 * 64 + v % 64 = v := by
          omega
        have h1 : ¬ v / 262144 + 240 < 128 := by omega
        have h2 : ¬ v / 262144 + 240 ≤ 223 := by omega
        have h3 : ¬ v / 262144 + 240 ≤ 239 := by omega
        have h4 : 240 ≤ v / 262144 + 240 := by omega
        have h5 : v / 262144 + 240 ≤ 244 := by omega
        have h6 : v / 4096 % 64 + 128 ≤ 191 := by omega
        have h7 : v / 64 % 64 + 128 ≤ 191 := by omega
        have h8 : v % 64 + 128 ≤ 191 := by omega
        have h9 : ¬ v / 262144 + 240 = 240 ∨ 144 ≤ v / 4096 % 64 + 128 := by omega
        have h10 : ¬ v / 262144 + 240 = 244 ∨ v / 4096 % 64 + 128 ≤ 143 := by omega
        simp [first, second4, isContinuation, char4, ha, hb, hd, he, this, hc, h1, h2, h3, h4, h5,
          h6, h7, h8]
        grind

/-- Text in front of some bytes is read back as it was written. -/
theorem decodeLossy_encode_append (cs : List Char) (rest : List UInt8) :
    decodeLossy (encode cs ++ rest) = cs ++ decodeLossy rest := by
  induction cs with
  | nil => rfl
  | cons c cs ih =>
    obtain ⟨a, more, hc, hf⟩ := first_utf8EncodeChar c (encode cs ++ rest)
    rw [encode_cons, hc, List.cons_append, List.cons_append, List.append_assoc, decodeLossy, hf,
      List.drop_left, ih, List.cons_append]

@[simp] theorem decodeLossy_encode (cs : List Char) : decodeLossy (encode cs) = cs := by
  have h := decodeLossy_encode_append cs []
  rw [decodeLossy, List.append_nil, List.append_nil] at h
  exact h

@[simp] theorem toStringLossy_ofString (s : String) : toStringLossy (ofString s) = s := by
  simp [toStringLossy, ofString]

/-! ## ASCII -/

theorem isContinuation_ascii {b : UInt8} (hb : b.toNat < 0x80) : isContinuation b = false := by
  simp only [isContinuation, Bool.and_eq_false_iff, decide_eq_false_iff_not]
  omega

/-- A character takes no more bytes than there are. -/
theorem first_le (a : UInt8) (as : List UInt8) : (first a as).2 ≤ as.length := by
  rcases as with _ | ⟨x, _ | ⟨y, _ | ⟨z, as⟩⟩⟩
  all_goals
    simp only [first]
    repeat' split
    all_goals simp

/-- No character goes on behind an ASCII byte that follows it. -/
theorem first_append_ascii {b : UInt8} (hb : b.toNat < 0x80) (a : UInt8) (as bs : List UInt8) :
    first a (as ++ b :: bs) = first a as := by
  have hcont := isContinuation_ascii hb
  have h3 : ∀ x, second3 x b = false := fun x => by simp [second3, hcont]
  have h4 : ∀ x, second4 x b = false := fun x => by simp [second4, hcont]
  rcases as with _ | ⟨x, _ | ⟨y, _ | ⟨z, as⟩⟩⟩
  · rcases bs with _ | ⟨c, _ | ⟨d, bs⟩⟩ <;> simp [first, hcont, h3, h4]
  · rcases bs with _ | ⟨c, bs⟩ <;>
      cases h3x : second3 a x <;> cases h4x : second4 a x <;> simp [first, hcont, h3x, h4x]
  · cases h4x : second4 a x <;> cases hy : isContinuation y <;> simp [first, hcont, h4x, hy]
  · simp [first]

/-- What stands behind an ASCII byte is read on its own. -/
theorem decodeLossy_append_ascii {b : UInt8} (hb : b.toNat < 0x80) (as bs : List UInt8) :
    decodeLossy (as ++ b :: bs) = decodeLossy as ++ decodeLossy (b :: bs) := by
  induction as using decodeLossy.induct with
  | case1 => simp [decodeLossy]
  | case2 a as ih =>
    have hle := first_le a as
    rw [List.cons_append, decodeLossy, decodeLossy, first_append_ascii hb,
      List.drop_append_of_le_length hle, ih, List.cons_append]

/-- An ASCII byte spells its character, wherever it stands in a text. -/
theorem mem_of_mem_encode {b : UInt8} (hb : b.toNat < 0x80) {cs : List Char} (h : b ∈ encode cs) :
    Char.ofNat b.toNat ∈ cs := by
  obtain ⟨as, bs, hsplit⟩ := List.append_of_mem h
  have hcs := decodeLossy_encode cs
  rw [hsplit, decodeLossy_append_ascii hb, decodeLossy] at hcs
  rw [← hcs]
  simp [first, hb]

end Stylesheet.Utf8
