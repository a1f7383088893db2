import ApiContract.Proofs.Text.Decoding
import ApiContract.Text.Percent
import Mathlib.Data.List.Basic

/-!
# Decoding what was percent-encoded

A text is percent-encoded byte by byte: letters, digits and four marks stand for
themselves, and all other bytes are written as `%` and two hexadecimal digits.  Decoding
gives the text again, whatever it holds, and the encoded text holds no slash.
-/

namespace ApiContract
namespace Percent

/-! ## Encoding -/

/-- Whether a character stands for itself: an ASCII letter or digit, or one of the marks
that are never delimiters. -/
def isUnreserved (c : Char) : Bool :=
  Ascii.isAlphanumeric c || c = '-' || c = '.' || c = '_' || c = '~'

/-- A hexadecimal digit in upper case. -/
def upperDigit (n : Nat) : Char :=
  if n < 10 then Char.ofNat (48 + n) else Char.ofNat (55 + n)

/-- The text of a byte. -/
def encodeByte (b : UInt8) : List Char :=
  if isUnreserved (Char.ofNat b.toNat) then [Char.ofNat b.toNat]
  else ['%', upperDigit (b.toNat / 16), upperDigit (b.toNat % 16)]

/-- A text with all bytes but those that stand for themselves written as digits. -/
def encodeText (text : List Char) : List Char :=
  (Utf8.encode text).flatMap encodeByte

/-! ## Decoding -/

theorem decode_cons_of_ne {b : UInt8} (h : b ≠ 37) (rest : List UInt8) :
    decode (b :: rest) = b :: decode rest := by
  rw [decode]
  rintro _ _ _ rfl
  contradiction

theorem decode_pair {a b byte : UInt8} (h : pair? a b = some byte) (rest : List UInt8) :
    decode (37 :: a :: b :: rest) = byte :: decode rest := by
  rw [decode, h]

theorem toNat_ofNat {n : Nat} (h : n < 256) : (Char.ofNat n).toNat = n := by
  have hvalid : n.isValidChar := Or.inl (by omega)
  rw [Char.ofNat, dif_pos hvalid]
  rfl

/-- Characters that stand for themselves take one byte, and are neither the sign that
begins an encoded byte nor a slash. -/
theorem bounds_of_isUnreserved {c : Char} (h : isUnreserved c = true) :
    c.toNat < 0x80 ∧ c.toNat ≠ '%'.toNat ∧ c.toNat ≠ '/'.toNat := by
  have hrange {low high : Char} (hlow : low ≤ c) (hhigh : c ≤ high) :
      low.toNat ≤ c.toNat ∧ c.toNat ≤ high.toNat := ⟨hlow, hhigh⟩
  simp only [isUnreserved, Ascii.isAlphanumeric, Ascii.isLetter, Ascii.isDigit, Bool.or_eq_true,
    Bool.and_eq_true, decide_eq_true_eq] at h
  simp only [Char.reduceToNat]
  rcases h with ((((hletter | hdigit) | rfl) | rfl) | rfl) | rfl
  · rcases hletter with ⟨hlow, hhigh⟩ | ⟨hlow, hhigh⟩
    · obtain ⟨hlow, hhigh⟩ := hrange hlow hhigh
      simp only [Char.reduceToNat] at hlow hhigh
      omega
    · obtain ⟨hlow, hhigh⟩ := hrange hlow hhigh
      simp only [Char.reduceToNat] at hlow hhigh
      omega
  · obtain ⟨hlow, hhigh⟩ := hrange hdigit.1 hdigit.2
    simp only [Char.reduceToNat] at hlow hhigh
    omega
  all_goals decide

theorem encodeChar_ascii {c : Char} (h : c.toNat < 0x80) :
    Utf8.encodeChar c = [c.toNat.toUInt8] := by
  rw [Utf8.encodeChar]
  exact if_pos h

theorem encodeChar_upperDigit {n : Nat} (h : n < 16) :
    ∃ b, Utf8.encodeChar (upperDigit n) = [b] ∧ hexByte? b = some n := by
  have hall : ∀ n < 16, Utf8.encodeChar (upperDigit n) = [(upperDigit n).toNat.toUInt8] ∧
      hexByte? (upperDigit n).toNat.toUInt8 = some n := by decide
  exact ⟨_, hall n h⟩

theorem slash_ne_upperDigit {n : Nat} (h : n < 16) : '/' ≠ upperDigit n := by
  have hall : ∀ n < 16, '/' ≠ upperDigit n := by decide
  exact hall n h

/-- What is written for a byte is read as the byte, whatever follows. -/
theorem decode_encodeByte (b : UInt8) (rest : List UInt8) :
    decode (Utf8.encode (encodeByte b) ++ rest) = b :: decode rest := by
  have hsmall : b.toNat < 256 := b.toNat_lt
  by_cases hplain : isUnreserved (Char.ofNat b.toNat) = true
  · obtain ⟨hascii, hpercent, -⟩ := bounds_of_isUnreserved hplain
    have hself := toNat_ofNat hsmall
    rw [hself] at hascii hpercent
    have hbyte : Utf8.encode (encodeByte b) = [b] := by
      rw [encodeByte, if_pos hplain, Utf8.encode, List.flatMap_singleton,
        encodeChar_ascii (hself.symm ▸ hascii), hself]
      simp
    rw [hbyte, List.singleton_append]
    apply decode_cons_of_ne
    rintro rfl
    exact hpercent rfl
  · obtain ⟨high, hhigh, hhigh'⟩ := encodeChar_upperDigit (n := b.toNat / 16) (by omega)
    obtain ⟨low, hlow, hlow'⟩ := encodeChar_upperDigit (n := b.toNat % 16) (by omega)
    have hbytes : Utf8.encode (encodeByte b) = [37, high, low] := by
      rw [encodeByte, if_neg hplain, Utf8.encode, List.flatMap_cons, List.flatMap_cons,
        List.flatMap_singleton, hhigh, hlow]
      rfl
    have hpair : pair? high low = some b := by
      rw [pair?, hhigh', hlow']
      simp only [Nat.div_add_mod']
      simp
    rw [hbytes]
    exact decode_pair hpair rest

/-- Decoding gives back the text that was encoded. -/
theorem decodeText_encodeText (text : List Char) : decodeText (encodeText text) = text := by
  have hbytes (bytes : List UInt8) :
      decode (Utf8.encode (bytes.flatMap encodeByte)) = bytes := by
    induction bytes with
    | nil => rfl
    | cons b bytes ih =>
        rw [List.flatMap_cons, Utf8.encode, List.flatMap_append]
        exact (decode_encodeByte b _).trans (congrArg (b :: ·) ih)
  rw [decodeText, encodeText, hbytes, Utf8.decodeLossy_encode]

example : encodeText "a/b é".toList = "a%2Fb%20%C3%A9".toList := by decide

/-! ## Encoded text in a path -/

theorem slash_notMem_encodeText (text : List Char) : '/' ∉ encodeText text := by
  rw [encodeText, List.mem_flatMap]
  rintro ⟨b, -, hmem⟩
  have hsmall : b.toNat < 256 := b.toNat_lt
  rw [encodeByte] at hmem
  split at hmem
  · next hplain =>
    have hslash := List.mem_singleton.mp hmem
    exact (bounds_of_isUnreserved hplain).2.2 (congrArg Char.toNat hslash).symm
  · simp only [List.mem_cons, List.not_mem_nil, or_false] at hmem
    rcases hmem with hpercent | hhigh | hlow
    · exact absurd hpercent (by decide)
    · exact slash_ne_upperDigit (by omega) hhigh
    · exact slash_ne_upperDigit (by omega) hlow

theorem encodeText_ne_nil {text : List Char} (h : text ≠ []) : encodeText text ≠ [] := by
  intro hempty
  apply h
  calc
    text = decodeText (encodeText text) := (decodeText_encodeText text).symm
    _ = decodeText (encodeText []) := by rw [hempty, encodeText, Utf8.encode]; rfl
    _ = [] := decodeText_encodeText []

end Percent
end ApiContract
