import ApiContract.Pattern.Syntax
import ApiContract.Text.Offset

/-!
# Scanning templates by byte offsets

A template can be scanned in place: from the byte offset of an opening brace to that of the
closing brace after it, and on from there.  `Template.scanNames?` collects what is in the
braces, and `Template.scanPattern?` writes a pattern in which a group that captures takes
their place.  A scan fails where it would take a text apart inside a character.
-/

namespace ApiContract
namespace Template

/-- The names of the placeholders of a template, by byte offsets. -/
def scanNames? (template : List Char) : Option (List (List Char)) :=
  match Utf8.offsetOf? '\x7b' template with
  | none => some []
  | some start =>
      match Utf8.from? template start with
      | none => none
      | some opened =>
          match Utf8.offsetOf? '\x7d' opened with
          | none => some []
          | some stop =>
              match Utf8.slice? template (start + 1) (start + stop),
                  hrest : Utf8.from? template (start + stop + 1) with
              | some name, some rest =>
                  have : rest.length < template.length := Utf8.length_lt_of_from? hrest
                  (scanNames? rest).map (name :: ·)
              | _, _ => none
termination_by template.length

/-- A text as a pattern that matches it: a backslash stands before every character with a
meaning of its own. -/
def escape (text : List Char) : List Char :=
  text.flatMap fun c => if Pattern.isMeta c then ['\\', c] else [c]

/-- The pattern of what a placeholder stands for, as a group that captures. -/
def segmentGroup : List Char :=
  "([^/]+)".toList

/-- The pattern of a template after its first anchor, by byte offsets. -/
def scanAnchored? (template : List Char) : Option (List Char) :=
  match Utf8.offsetOf? '\x7b' template with
  | none => some (escape template ++ ['$'])
  | some start =>
      match Utf8.from? template start with
      | none => none
      | some opened =>
          match Utf8.offsetOf? '\x7d' opened with
          | none => some (escape template ++ ['$'])
          | some stop =>
              match Utf8.upTo? template start,
                  hrest : Utf8.from? template (start + stop + 1) with
              | some before, some rest =>
                  have : rest.length < template.length := Utf8.length_lt_of_from? hrest
                  (scanAnchored? rest).map (escape before ++ segmentGroup ++ ·)
              | _, _ => none
termination_by template.length

/-- The text of the pattern that a path has to match, by byte offsets. -/
def scanPattern? (template : List Char) : Option (List Char) :=
  (scanAnchored? template).map ('^' :: ·)

end Template
end ApiContract
