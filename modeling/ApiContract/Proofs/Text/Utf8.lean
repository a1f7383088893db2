import ApiContract.Text.Utf8
import Mathlib.Data.String.Basic
import Mathlib.Order.Monotone.Defs
import Mathlib.Tactic.SplitIfs

/-!
# The order of texts and that of their bytes

UTF-8 keeps the order of texts: of two texts, the one that is less character by character
is less byte by byte as well.
-/

namespace ApiContract
namespace Utf8

/-- The values of the bytes of a code point. -/
def octetsOf (n : ℕ) : List ℕ :=
  if n < 0x80 then [n]
  else if n < 0x800 then [0xC0 + n / 64, 0x80 + n % 64]
  else if n < 0x10000 then [0xE0 + n / 4096, 0x80 + n / 64 % 64, 0x80 + n % 64]
  else [0xF0 + n / 262144, 0x80 + n / 4096 % 64, 0x80 + n / 64 % 64, 0x80 + n % 64]

/-- The values of the bytes of a text. -/
def octets (text : List Char) : List ℕ :=
  (encode text).map UInt8.toNat

theorem map_toNat_encodeChar (c : Char) :
    (encodeChar c).map UInt8.toNat = octetsOf c.toNat := by
  have hsmall : c.toNat < 0x110000 := by
    have hvalid := c.valid
    simp only [UInt32.isValidChar, Nat.isValidChar] at hvalid
    change c.val.toNat < 0x110000
    omega
  rw [encodeChar, octetsOf]
  split_ifs <;> simp [UInt8.toNat_ofNat] <;> omega

/-- A lesser code point is decided to be less before its bytes end, whatever follows. -/
theorem octetsOf_append_lt {m n : ℕ} (h : m < n) (s t : List ℕ) :
    octetsOf m ++ s < octetsOf n ++ t := by
  rw [octetsOf, octetsOf]
  split_ifs <;> simp [List.cons_lt_cons_iff] <;> omega

theorem octets_cons (c : Char) (text : List Char) :
    octets (c :: text) = octetsOf c.toNat ++ octets text := by
  rw [octets, octets, encode, encode, List.flatMap_cons, List.map_append,
    map_toNat_encodeChar]

theorem octets_lt_octets {s t : List Char} (h : s < t) : octets s < octets t := by
  induction s generalizing t with
  | nil =>
      cases t with
      | nil => exact absurd h (lt_irrefl _)
      | cons d t =>
          rw [octets_cons, octetsOf]
          split_ifs <;> exact List.nil_lt_cons _ _
  | cons c s ih =>
      cases t with
      | nil => exact absurd h (List.not_lt_nil _)
      | cons d t =>
          rw [octets_cons, octets_cons]
          rcases List.cons_lt_cons_iff.mp h with hless | ⟨rfl, hrest⟩
          · exact octetsOf_append_lt hless _ _
          · exact List.append_left_lt (ih hrest)

/-- Texts are in the order of their bytes. -/
theorem octets_le_octets_iff {s t : List Char} : octets s ≤ octets t ↔ s ≤ t := by
  have hmono : StrictMono octets := fun _ _ h => octets_lt_octets h
  exact hmono.le_iff_le

end Utf8
end ApiContract
