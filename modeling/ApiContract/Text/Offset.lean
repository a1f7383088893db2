import ApiContract.Text.Utf8

/-!
# Byte offsets

A place in a text can be given by the number of bytes before it.  There is no place where
that number leads into a character or beyond the text, and what should be taken from there
or up to there is `none`.
-/

namespace ApiContract
namespace Utf8

/-! ## Sizes -/

@[simp] theorem size_nil : size [] = 0 := rfl

theorem size_cons (c : Char) (text : List Char) :
    size (c :: text) = (encodeChar c).length + size text := by
  simp [size, encode]

theorem size_append (before after : List Char) :
    size (before ++ after) = size before + size after := by
  simp [size, encode]

theorem length_encodeChar_pos (c : Char) : 0 < (encodeChar c).length := by
  rw [encodeChar]
  repeat' split
  all_goals simp

/-! ## Taking texts apart -/

/-- The texts before and after a byte offset. -/
def splitAt? : (text : List Char) → (offset : Nat) → Option (List Char × List Char)
  | text, 0 => some ([], text)
  | [], _ + 1 => none
  | c :: rest, offset + 1 =>
      let width := (encodeChar c).length
      if width ≤ offset + 1 then
        (splitAt? rest (offset + 1 - width)).map fun parts => (c :: parts.1, parts.2)
      else none

/-- The text is put together again from the parts, of which the first has as many bytes as
the offset tells. -/
theorem eq_of_splitAt? {text before after : List Char} {offset : Nat}
    (h : splitAt? text offset = some (before, after)) :
    text = before ++ after ∧ size before = offset := by
  induction text generalizing before offset with
  | nil =>
      cases offset with
      | zero =>
          cases h
          exact ⟨rfl, rfl⟩
      | succ offset => simp [splitAt?] at h
  | cons c rest ih =>
      cases offset with
      | zero =>
          cases h
          exact ⟨rfl, rfl⟩
      | succ offset =>
          simp only [splitAt?] at h
          split at h
          · rename_i hwidth
            obtain ⟨parts, hparts, heq⟩ := Option.map_eq_some_iff.mp h
            cases heq
            obtain ⟨hrest, hsize⟩ := ih hparts
            refine ⟨by rw [List.cons_append, ← hrest], ?_⟩
            rw [size_cons, hsize]
            omega
          · cases h

/-- The text before a byte offset. -/
def upTo? (text : List Char) (offset : Nat) : Option (List Char) :=
  (splitAt? text offset).map (·.1)

/-- The text from a byte offset on. -/
def from? (text : List Char) (offset : Nat) : Option (List Char) :=
  (splitAt? text offset).map (·.2)

/-- The text from a later byte offset on is shorter. -/
theorem length_lt_of_from? {text rest : List Char} {offset : Nat}
    (h : from? text (offset + 1) = some rest) : rest.length < text.length := by
  obtain ⟨⟨before, after⟩, hsplit, rfl⟩ := Option.map_eq_some_iff.mp h
  obtain ⟨rfl, hsize⟩ := eq_of_splitAt? hsplit
  cases before with
  | nil => simp at hsize
  | cons c before =>
      simp only [List.cons_append, List.length_cons, List.length_append]
      omega

/-- The text between two byte offsets. -/
def slice? (text : List Char) (start stop : Nat) : Option (List Char) :=
  if start ≤ stop then (upTo? text stop).bind fun before => from? before start else none

/-- The byte offset at which a character occurs first. -/
def offsetOf? (mark : Char) (text : List Char) : Option Nat :=
  if mark ∈ text then some (size (text.takeWhile (· ≠ mark))) else none

end Utf8
end ApiContract
