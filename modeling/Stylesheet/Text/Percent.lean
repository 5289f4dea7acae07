import Stylesheet.Text.Hex
import Stylesheet.Text.Utf8

set_option autoImplicit false

/-! # Percent-encoding

Bytes outside a chosen set of plain ones are written as `%` and two upper-case hexadecimal
digits. Reading back accepts either case and leaves a `%` that no two digits follow as it is.
Decoding undoes encoding with every set that encodes the percent sign itself
(`decode_encode`).
-/

namespace Stylesheet.Percent

/-- Which bytes below 128 are percent-encoded; the bytes above always are. -/
abbrev EncodeSet := UInt8 → Bool

def sign : UInt8 := 0x25

def asciiChar (b : UInt8) : Char := Char.ofNat b.toNat

def encodeByte (set : EncodeSet) (b : UInt8) : List Char :=
  if 0x80 ≤ b.toNat || set b then
    ['%', Hex.upperDigit (b.toNat / 16), Hex.upperDigit (b.toNat % 16)]
  else [asciiChar b]

def encode (set : EncodeSet) (bs : List UInt8) : List Char := bs.flatMap (encodeByte set)

/-- The value of a byte that is a hexadecimal digit. -/
def digit? (b : UInt8) : Option Nat := Hex.value? (asciiChar b)

/-- The byte that a percent sign and the two given bytes stand for. -/
def byte? (h l : UInt8) : Option UInt8 :=
  match digit? h, digit? l with
  | some h, some l => some (UInt8.ofNat (h * 16 + l))
  | _, _ => none

/-- The bytes with every percent sign that two hexadecimal digits follow read as one byte. -/
def decode : List UInt8 → List UInt8
  | [] => []
  | a :: h :: l :: rest =>
    if a = sign then
      match byte? h l with
      | some b => b :: decode rest
      | none => a :: decode (h :: l :: rest)
    else a :: decode (h :: l :: rest)
  | a :: rest => a :: decode rest

def decodeChars (cs : List Char) : List UInt8 := decode (Utf8.encode cs)

/-- The text that percent-encoded text stands for; bytes that are not UTF-8 are replaced. -/
def decodeString (s : String) : String := Utf8.toStringLossy (decode (Utf8.ofString s))

/-! ## Sets of bytes to encode -/

def controls : EncodeSet := fun b => b.toNat < 0x20 || b.toNat == 0x7F

/-- The bytes of some ASCII characters besides those of a set. -/
def EncodeSet.adding (set : EncodeSet) (cs : String) : EncodeSet :=
  fun b => set b || cs.toList.contains (asciiChar b)

/-! ## Laws -/

theorem decode_cons_of_ne {a : UInt8} (h : a ≠ sign) (rest : List UInt8) :
    decode (a :: rest) = a :: decode rest := by
  match rest with
  | [] => simp [decode]
  | [_] => simp [decode]
  | _ :: _ :: _ => simp [decode, h]

/-- Without a percent sign there is nothing to decode. -/
theorem decode_of_not_mem {bs : List UInt8} (h : sign ∉ bs) : decode bs = bs := by
  induction bs with
  | nil => rfl
  | cons b bs ih =>
    have hb : b ≠ sign := fun hb => h (by simp [hb])
    have hbs : sign ∉ bs := fun hbs => h (by simp [hbs])
    rw [decode_cons_of_ne hb, ih hbs]

theorem decodeString_of_not_mem {s : String} (h : '%' ∉ s.toList) : decodeString s = s := by
  have hsign : sign ∉ Utf8.ofString s := fun hs => h (Utf8.mem_of_mem_encode (by decide) hs)
  rw [decodeString, decode_of_not_mem hsign, Utf8.toStringLossy_ofString]

theorem utf8EncodeChar_ofNat : ∀ n < 0x80,
    String.utf8EncodeChar (Char.ofNat n) = [UInt8.ofNat n] := by
  decide +kernel

theorem utf8EncodeChar_asciiChar {b : UInt8} (h : b.toNat < 0x80) :
    String.utf8EncodeChar (asciiChar b) = [b] := by
  simpa [asciiChar] using utf8EncodeChar_ofNat b.toNat h

theorem encode_upperDigits : ∀ n < 256,
    Utf8.encode [Hex.upperDigit (n / 16), Hex.upperDigit (n % 16)]
        = [UInt8.ofNat (Hex.upperDigit (n / 16)).toNat, UInt8.ofNat (Hex.upperDigit (n % 16)).toNat]
      ∧ byte? (UInt8.ofNat (Hex.upperDigit (n / 16)).toNat)
          (UInt8.ofNat (Hex.upperDigit (n % 16)).toNat) = some (UInt8.ofNat n) := by
  decide +kernel

theorem byte?_upperDigits (b : UInt8) :
    ∃ h l, Utf8.encode [Hex.upperDigit (b.toNat / 16), Hex.upperDigit (b.toNat % 16)] = [h, l] ∧
      byte? h l = some b := by
  have := encode_upperDigits b.toNat b.toNat_lt
  exact ⟨_, _, this.1, by simpa using this.2⟩

/-- Decoding gives back the bytes that were encoded, if the percent sign was encoded too. -/
theorem decode_encode_append {set : EncodeSet} (hset : set sign = true) (bs tail : List UInt8) :
    decode (Utf8.encode (encode set bs) ++ tail) = bs ++ decode tail := by
  induction bs with
  | nil => rfl
  | cons b bs ih =>
    by_cases h : (0x80 ≤ b.toNat || set b) = true
    · obtain ⟨x, y, hxy, hb⟩ := byte?_upperDigits b
      have hp : String.utf8EncodeChar '%' = [sign] := by decide
      have : Utf8.encode (encode set (b :: bs))
          = sign :: x :: y :: Utf8.encode (encode set bs) := by
        have he : encode set (b :: bs)
            = '%' :: ([Hex.upperDigit (b.toNat / 16), Hex.upperDigit (b.toNat % 16)]
              ++ encode set bs) := by simp [encode, encodeByte, h]
        rw [he, Utf8.encode_cons, Utf8.encode_append, hxy, hp]
        rfl
      simp [this, decode, hb, ih]
    · have hlt : b.toNat < 0x80 := by simp at h; omega
      have hne : b ≠ sign := by
        rintro rfl
        simp [hset] at h
      have : Utf8.encode (encode set (b :: bs)) = b :: Utf8.encode (encode set bs) := by
        simp [encode, encodeByte, h, utf8EncodeChar_asciiChar hlt]
      simp [this, decode_cons_of_ne hne, ih]

theorem decodeChars_encode {set : EncodeSet} (hset : set sign = true) (bs : List UInt8) :
    decodeChars (encode set bs) = bs := by
  simpa [decodeChars, decode] using decode_encode_append hset bs []

end Stylesheet.Percent
