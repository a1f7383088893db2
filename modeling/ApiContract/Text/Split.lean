/-!
# Splitting texts

`dropStart?` takes a text away from the front of another one, and `splitAround?` splits
a text around the first place where another one stands.  The parts put together give the
text again.
-/

namespace ApiContract

/-- The text of `text` after `start`, if it begins with it. -/
def dropStart? : (start text : List Char) → Option (List Char)
  | [], text => some text
  | _ :: _, [] => none
  | a :: start, b :: text => if a = b then dropStart? start text else none

/-- A start is taken away exactly where it stands. -/
theorem dropStart?_eq_some_iff {start text rest : List Char} :
    dropStart? start text = some rest ↔ text = start ++ rest := by
  induction start generalizing text with
  | nil => simp [dropStart?]
  | cons a start ih =>
      cases text with
      | nil => simp [dropStart?]
      | cons b text =>
          by_cases h : a = b
          · simp [dropStart?, h, ih]
          · simp [dropStart?, h, Ne.symm h]

/-- The texts before and after the first `mark`. -/
def splitAround? (mark : List Char) : List Char → Option (List Char × List Char)
  | [] => none
  | c :: rest =>
      match dropStart? mark (c :: rest) with
      | some after => some ([], after)
      | none => (splitAround? mark rest).map fun parts => (c :: parts.1, parts.2)

/-- The text is put together again from the parts and the mark. -/
theorem eq_of_splitAround? {mark text before after : List Char}
    (h : splitAround? mark text = some (before, after)) :
    text = before ++ mark ++ after := by
  induction text generalizing before after with
  | nil => simp [splitAround?] at h
  | cons c rest ih =>
      simp only [splitAround?] at h
      split at h
      · rename_i hdrop
        cases h
        simpa using dropStart?_eq_some_iff.mp hdrop
      · obtain ⟨parts, hparts, heq⟩ := Option.map_eq_some_iff.mp h
        cases heq
        simp [ih hparts]

/-- The texts before and after the first character `mark`; without one the second part
is empty. -/
def splitFirst (mark : Char) (text : List Char) : List Char × List Char :=
  (text.takeWhile (· ≠ mark), (text.dropWhile (· ≠ mark)).drop 1)

end ApiContract
