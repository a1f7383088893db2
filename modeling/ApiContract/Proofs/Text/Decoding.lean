import ApiContract.Text.Utf8
import Mathlib.Data.List.Basic
import Mathlib.Tactic.SplitIfs

/-!
# Decoding what was encoded

The bytes of a text are read as the text: of each character, the first byte tells how many
follow, and their payloads make up the code point.
-/

namespace ApiContract
namespace Utf8

variable {first second third fourth : UInt8} {rest : List UInt8}

/-! ## Reading one character -/

theorem isContinuation_iff :
    isContinuation first = true ↔ 0x80 ≤ first.toNat ∧ first.toNat ≤ 0xBF := by
  simp [isContinuation, UInt8.le_iff_toNat_le]

/-- Only four first bytes narrow the range of the second one. -/
theorem mem_secondRange (first : UInt8) (hcontinues : isContinuation second = true)
    (hE0 : first.toNat = 0xE0 → 0xA0 ≤ second.toNat)
    (hED : first.toNat = 0xED → second.toNat ≤ 0x9F)
    (hF0 : first.toNat = 0xF0 → 0x90 ≤ second.toNat)
    (hF4 : first.toNat = 0xF4 → second.toNat ≤ 0x8F) :
    (secondRange first).1 ≤ second ∧ second ≤ (secondRange first).2 := by
  obtain ⟨hlow, hhigh⟩ := isContinuation_iff.mp hcontinues
  simp only [UInt8.le_iff_toNat_le]
  rw [secondRange]
  split_ifs with h h h h
  · exact ⟨hE0 (congrArg UInt8.toNat h), hhigh⟩
  · exact ⟨hlow, hED (congrArg UInt8.toNat h)⟩
  · exact ⟨hF0 (congrArg UInt8.toNat h), hhigh⟩
  · exact ⟨hlow, hF4 (congrArg UInt8.toNat h)⟩
  · exact ⟨hlow, hhigh⟩

theorem step_one (h : first.toNat < 0x80) :
    step first rest = (some (Char.ofNat first.toNat), 0) := by
  rw [step.eq_def, if_pos (UInt8.lt_iff_toNat_lt.mpr h)]

theorem step_two (hlow : 0xC2 ≤ first.toNat) (hhigh : first.toNat ≤ 0xDF)
    (hsecond : isContinuation second = true) :
    step first (second :: rest) =
      (some (Char.ofNat ((first.toNat - 0xC0) * 64 + payload second)), 1) := by
  have hwide : ¬first.toNat < 0x80 := by omega
  rw [step.eq_def]
  simp [UInt8.lt_iff_toNat_lt, UInt8.le_iff_toNat_le, hwide, hlow, hhigh, hsecond]

theorem step_three (hlow : 0xE0 ≤ first.toNat) (hhigh : first.toNat < 0xF0)
    (hsecond : (secondRange first).1 ≤ second ∧ second ≤ (secondRange first).2)
    (hthird : isContinuation third = true) :
    step first (second :: third :: rest) =
      (some (Char.ofNat
        ((first.toNat - 0xE0) * 4096 + payload second * 64 + payload third)), 2) := by
  have hwide : ¬first.toNat < 0x80 := by omega
  have hlong : ¬first.toNat ≤ 0xDF := by omega
  have hshort : first.toNat ≤ 0xF4 := by omega
  rw [step.eq_def]
  simp only [hsecond.1, hsecond.2]
  simp [UInt8.lt_iff_toNat_lt, UInt8.le_iff_toNat_le, hwide, hlong, hlow, hshort, hhigh, hthird]

theorem step_four (hlow : 0xF0 ≤ first.toNat) (hhigh : first.toNat ≤ 0xF4)
    (hsecond : (secondRange first).1 ≤ second ∧ second ≤ (secondRange first).2)
    (hthird : isContinuation third = true) (hfourth : isContinuation fourth = true) :
    step first (second :: third :: fourth :: rest) =
      (some (Char.ofNat ((first.toNat - 0xF0) * 262144 + payload second * 4096 +
        payload third * 64 + payload fourth)), 3) := by
  have hwide : ¬first.toNat < 0x80 := by omega
  have hlong : ¬first.toNat ≤ 0xDF := by omega
  have hlonger : ¬first.toNat < 0xF0 := by omega
  have hmany : 0xE0 ≤ first.toNat := by omega
  rw [step.eq_def]
  simp only [hsecond.1, hsecond.2]
  simp [UInt8.lt_iff_toNat_lt, UInt8.le_iff_toNat_le, hwide, hlong, hlonger, hmany, hhigh, hthird,
    hfourth]

/-! ## Reading texts -/

theorem toNat_toUInt8 {n : ℕ} (h : n < 256) : n.toUInt8.toNat = n := by
  simp [Nat.mod_eq_of_lt h]

theorem isContinuation_toUInt8 {n : ℕ} (h : n < 64) : isContinuation (0x80 + n).toUInt8 = true := by
  rw [isContinuation_iff, toNat_toUInt8 (by omega)]
  omega

theorem payload_toUInt8 {n : ℕ} (h : n < 64) : payload (0x80 + n).toUInt8 = n := by
  rw [payload, toNat_toUInt8 (by omega)]
  omega

/-- What is read of a character and the bytes after it. -/
theorem pieces_of_step {c : Char} {more : List UInt8} {n : ℕ}
    (hstep : step first (more ++ rest) = (some c, n)) (hlength : more.length = n) :
    pieces (first :: more ++ rest) = some c :: pieces rest := by
  rw [List.cons_append, pieces, hstep, ← hlength]
  simp

theorem pieces_encodeChar (c : Char) (rest : List UInt8) :
    pieces (encodeChar c ++ rest) = some c :: pieces rest := by
  have hvalid : c.toNat < 0xD800 ∨ 0xDFFF < c.toNat ∧ c.toNat < 0x110000 := c.valid
  have hself : Char.ofNat c.toNat = c := Char.ofNat_toNat c
  have hchar {n : ℕ} (h : n = c.toNat) : Char.ofNat n = c := h ▸ hself
  rw [encodeChar]
  split_ifs with hone htwo hthree
  · apply pieces_of_step _ rfl
    have hfirst := toNat_toUInt8 (n := c.toNat) (by omega)
    rw [step_one (by omega), hchar hfirst]
    rfl
  · apply pieces_of_step _ rfl
    have hfirst := toNat_toUInt8 (n := 0xC0 + c.toNat / 64) (by omega)
    rw [List.singleton_append, step_two (by omega) (by omega) (isContinuation_toUInt8 (by omega)),
      payload_toUInt8 (by omega), hchar (by omega)]
    rfl
  · apply pieces_of_step _ rfl
    have hfirst := toNat_toUInt8 (n := 0xE0 + c.toNat / 4096) (by omega)
    have hsecond := toNat_toUInt8 (n := 0x80 + c.toNat / 64 % 64) (by omega)
    have hrange := mem_secondRange (0xE0 + c.toNat / 4096).toUInt8
      (isContinuation_toUInt8 (n := c.toNat / 64 % 64) (by omega))
      (by omega) (by omega) (by omega) (by omega)
    rw [List.cons_append, List.singleton_append,
      step_three (by omega) (by omega) hrange (isContinuation_toUInt8 (by omega)),
      payload_toUInt8 (by omega), payload_toUInt8 (by omega), hchar (by omega)]
    rfl
  · apply pieces_of_step _ rfl
    have hfirst := toNat_toUInt8 (n := 0xF0 + c.toNat / 262144) (by omega)
    have hsecond := toNat_toUInt8 (n := 0x80 + c.toNat / 4096 % 64) (by omega)
    have hrange := mem_secondRange (0xF0 + c.toNat / 262144).toUInt8
      (isContinuation_toUInt8 (n := c.toNat / 4096 % 64) (by omega))
      (by omega) (by omega) (by omega) (by omega)
    rw [List.cons_append, List.cons_append, List.singleton_append,
      step_four (by omega) (by omega) hrange (isContinuation_toUInt8 (by omega))
        (isContinuation_toUInt8 (by omega)),
      payload_toUInt8 (by omega), payload_toUInt8 (by omega), payload_toUInt8 (by omega),
      hchar (by omega)]
    rfl

theorem pieces_encode (text : List Char) : pieces (encode text) = text.map some := by
  induction text with
  | nil => rw [encode, List.flatMap_nil, pieces, List.map_nil]
  | cons c text ih =>
      rw [encode] at ih
      rw [encode, List.flatMap_cons, pieces_encodeChar, ih, List.map_cons]

/-- The bytes of a text are read as the text. -/
theorem decode?_encode (text : List Char) : decode? (encode text) = some text := by
  have hall (text : List Char) : (text.map some).mapM id = some text := by
    induction text with
    | nil => rfl
    | cons c text ih =>
        rw [List.map_cons, List.mapM_cons, ih]
        rfl
  rw [decode?, pieces_encode, hall]

/-- Nothing in the bytes of a text is malformed. -/
theorem decodeLossy_encode (text : List Char) : decodeLossy (encode text) = text := by
  rw [decodeLossy, pieces_encode, List.map_map]
  exact List.map_id text

end Utf8
end ApiContract
