import ApiContract.Pattern.Size
import ApiContract.Text.Split

/-!
# Path templates

A template is a text in which names in braces stand for parts of a path that are not
empty and hold no slash.  `Template.placeholders` gives the names and
`Template.literals` the texts around them; a brace that is not closed is literal.
`Template.captures?` finds what the placeholders stand for in a path, the first one
taking as much as it can.
-/

namespace ApiContract
namespace Template

/-- The text after a brace is shorter than the whole. -/
theorem length_lt_of_splitAround? {brace : Char} {text before after : List Char}
    (h : splitAround? [brace] text = some (before, after)) :
    after.length < text.length := by
  simp [eq_of_splitAround? h]
  omega

/-- The names of the placeholders of a template, from left to right. -/
def placeholders (template : List Char) : List (List Char) :=
  match hopen : splitAround? ['\x7b'] template with
  | none => []
  | some (_, inside) =>
      match hclose : splitAround? ['\x7d'] inside with
      | none => []
      | some (name, rest) =>
          have : rest.length < template.length :=
            Nat.lt_trans (length_lt_of_splitAround? hclose) (length_lt_of_splitAround? hopen)
          name :: placeholders rest
termination_by template.length

/-- The texts before, between and after the placeholders of a template. -/
def literals (template : List Char) : List (List Char) :=
  match hopen : splitAround? ['\x7b'] template with
  | none => [template]
  | some (before, inside) =>
      match hclose : splitAround? ['\x7d'] inside with
      | none => [template]
      | some (_, rest) =>
          have : rest.length < template.length :=
            Nat.lt_trans (length_lt_of_splitAround? hclose) (length_lt_of_splitAround? hopen)
          before :: literals rest
termination_by template.length

/-- Gives the longest part of a segment, of at most `length` characters, after which
the rest can be read, and the parts that are read after it. -/
def takeLongest? (read : List Char → Option (List (List Char))) (text : List Char) :
    (length : Nat) → Option (List (List Char))
  | 0 => none
  | length + 1 =>
      match read (text.drop (length + 1)) with
      | some captures => some (text.take (length + 1) :: captures)
      | none => takeLongest? read text length

/-- The parts of a path between literals; `none` if it cannot be split so.  Every part
is as long as it can be after the parts before it are chosen. -/
def captures? : (literals : List (List Char)) → (path : List Char) →
    Option (List (List Char))
  | [], _ => none
  | [last], path => if path = last then some [] else none
  | literal :: next :: rest, path =>
      match dropStart? literal path with
      | none => none
      | some tail =>
          takeLongest? (captures? (next :: rest)) tail (tail.takeWhile (· ≠ '/')).length

/-- Every character but the slash. -/
def segmentRanges : Unicode.Ranges :=
  [(0, 0x2E), (0x30, 0x10FFFF)]

/-- The pattern that matches a text and then what another pattern matches. -/
def patternAfter (text : List Char) (rest : Pattern) : Pattern :=
  text.foldr (fun c rest => .seq (.oneOf [(c.toNat, c.toNat)]) rest) rest

/-- The pattern of the paths that literals with placeholders between them accept. -/
def pattern (literals : List (List Char)) : Pattern :=
  let segment := Pattern.group (.repeated (.oneOf segmentRanges) 1 none)
  let rec join : List (List Char) → Pattern
    | [] => .anchor .textEnd
    | [last] => patternAfter last (.anchor .textEnd)
    | literal :: rest => patternAfter literal (.seq segment (join rest))
  .seq (.anchor .textStart) (join literals)

end Template
end ApiContract
