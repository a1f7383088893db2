import ApiContract.Text.Offset
import ApiContract.Text.Split
import Mathlib.Data.List.TakeWhile

/-!
# Places in texts

At the size of what stands before it a text is taken apart, so that the places around the
characters that are searched for are places of the text.  Of two beginnings of one text the one
with fewer bytes is a beginning of the other.
-/

namespace ApiContract
namespace Utf8

variable {text before after middle rest : List Char} {mark : Char}

theorem size_eq_zero_iff : size text = 0 ↔ text = [] := by
  cases text with
  | nil => simp
  | cons c rest =>
      have hpos := length_encodeChar_pos c
      simp only [size_cons, List.cons_ne_nil, iff_false]
      omega

/-- A beginning of a text has no more bytes than another one exactly if it is a beginning of
it. -/
theorem size_le_size_iff (hbefore : before <+: text) (hrest : rest <+: text) :
    size before ≤ size rest ↔ before <+: rest := by
  constructor
  · intro hsize
    obtain hshorter | ⟨more, rfl⟩ := List.prefix_or_prefix_of_prefix hbefore hrest
    · exact hshorter
    · have hmore : size more = 0 := by
        rw [size_append] at hsize
        omega
      simp [size_eq_zero_iff.mp hmore]
  · rintro ⟨more, rfl⟩
    rw [size_append]
    exact Nat.le_add_right _ _

theorem size_ascii_cons {c : Char} (h : c.toNat < 0x80) (text : List Char) :
    size (c :: text) = size text + 1 := by
  have hwidth : (encodeChar c).length = 1 := by
    simp [encodeChar, h]
  rw [size_cons, hwidth, Nat.add_comm]

/-! ## Taking texts apart -/

section Places

variable {start stop : ℕ}

theorem splitAt?_size (before after : List Char) :
    splitAt? (before ++ after) (size before) = some (before, after) := by
  induction before with
  | nil => simp [splitAt?]
  | cons c before ih =>
      obtain ⟨width, hwidth⟩ := Nat.exists_eq_succ_of_ne_zero (length_encodeChar_pos c).ne'
      have hoffset : size (c :: before) = (width + size before) + 1 := by
        rw [size_cons, hwidth]
        omega
      have hrest : width + size before + 1 - (encodeChar c).length = size before := by omega
      rw [hoffset, List.cons_append, splitAt?]
      simp only [hrest, ih, Option.map_some]
      rw [if_pos (by omega)]

theorem upTo?_append (h : size before = stop) : upTo? (before ++ after) stop = some before := by
  rw [← h, upTo?, splitAt?_size, Option.map_some]

theorem from?_append (h : size before = start) : from? (before ++ after) start = some after := by
  rw [← h, from?, splitAt?_size, Option.map_some]

theorem slice?_append (hstart : size before = start) (hstop : start + size middle = stop) :
    slice? (before ++ middle ++ after) start stop = some middle := by
  have hboth : size (before ++ middle) = stop := by rw [size_append, hstart, hstop]
  rw [slice?, if_pos (by omega), upTo?_append hboth, Option.bind_some, from?_append hstart]

end Places

/-! ## Searching -/

theorem notMem_of_splitAround? (h : splitAround? [mark] text = some (before, after)) :
    mark ∉ before := by
  induction text generalizing before with
  | nil => cases h
  | cons c rest ih =>
      obtain rfl | hc := eq_or_ne mark c
      · obtain ⟨rfl, -⟩ : [] = before ∧ rest = after := by
          simpa [splitAround?, dropStart?] using h
        exact List.not_mem_nil
      · simp only [splitAround?, dropStart?, if_neg hc] at h
        obtain ⟨parts, hparts, heq⟩ := Option.map_eq_some_iff.mp h
        cases heq
        exact List.not_mem_cons_of_ne_of_not_mem hc (ih hparts)

theorem notMem_of_splitAround?_eq_none (h : splitAround? [mark] text = none) : mark ∉ text := by
  induction text with
  | nil => exact List.not_mem_nil
  | cons c rest ih =>
      obtain rfl | hc := eq_or_ne mark c
      · simp [splitAround?, dropStart?] at h
      · simp only [splitAround?, dropStart?, if_neg hc, Option.map_eq_none_iff] at h
        exact List.not_mem_cons_of_ne_of_not_mem hc (ih h)

theorem offsetOf?_of_notMem (h : mark ∉ text) : offsetOf? mark text = none :=
  if_neg h

/-- A character is found after all that stands before it. -/
theorem offsetOf?_append (h : mark ∉ before) :
    offsetOf? mark (before ++ mark :: after) = some (size before) := by
  have hall : ∀ c ∈ before, decide (c ≠ mark) = true := by
    intro c hc
    simpa using ne_of_mem_of_not_mem hc h
  rw [offsetOf?, if_pos (by simp), List.takeWhile_append_of_pos hall]
  simp

end Utf8
end ApiContract
