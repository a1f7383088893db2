import ApiContract.Text.Ascii
import ApiContract.Unicode.Category
import ApiContract.Unicode.Property

/-!
# Patterns and where they match

A pattern is a regular expression without references or look-around, so what it
matches is decided by sets of positions: `Pattern.ends` maps the positions where
a match may begin to the positions where it may end.
-/

namespace ApiContract

/-- A condition on a position between two characters.  The flag of a word
condition tells whether all word characters count, or those of ASCII only. -/
inductive Anchor where
  | textStart
  | textEnd
  | lineStart
  | lineEnd
  | anyLineStart
  | anyLineEnd
  | wordBoundary (unicode : Bool)
  | noWordBoundary (unicode : Bool)
  | wordStart (unicode : Bool)
  | wordEnd (unicode : Bool)
  | wordStartHalf (unicode : Bool)
  | wordEndHalf (unicode : Bool)
  deriving DecidableEq, Repr

/-- A pattern over characters. -/
inductive Pattern where
  | empty
  | oneOf (set : Unicode.Ranges)
  | anchor (a : Anchor)
  | seq (first second : Pattern)
  | alt (first second : Pattern)
  /-- At least `least` copies, and no more than `most` where there is a bound. -/
  | repeated (body : Pattern) (least : Nat) (most : Option Nat)
  /-- A group that captures what it matches. -/
  | group (body : Pattern)

namespace Pattern

/-- The word characters: letters, marks, decimal digits, connectors and joiners. -/
def wordRanges : Unicode.Ranges :=
  let part (set? : Option Unicode.Ranges) : Unicode.Ranges := set?.getD []
  [part (Unicode.category? "m"), part (Unicode.category? "nd"), part (Unicode.category? "pc"),
    part (Unicode.property? "joincontrol")].foldl Unicode.Ranges.union
      (part (Unicode.property? "alphabetic"))

/-- Whether a character is a word character. -/
def isWord (unicode : Bool) (c : Char) : Bool :=
  if unicode then wordRanges.contains c.toNat
  else Ascii.isAlphanumeric c || c = '_'

end Pattern

/-- Whether a condition holds between two neighbours, `none` at an end of the
text. -/
def Anchor.holds (before after : Option Char) : Anchor → Bool
  | .textStart => before.isNone
  | .textEnd => after.isNone
  | .lineStart => before.isNone || before = some '\n'
  | .lineEnd => after.isNone || after = some '\n'
  | .anyLineStart =>
      before.isNone || before = some '\n' || (before = some '\r' && after ≠ some '\n')
  | .anyLineEnd =>
      after.isNone || after = some '\r' || (after = some '\n' && before ≠ some '\r')
  | .wordBoundary unicode => word unicode before != word unicode after
  | .noWordBoundary unicode => word unicode before == word unicode after
  | .wordStart unicode => !word unicode before && word unicode after
  | .wordEnd unicode => word unicode before && !word unicode after
  | .wordStartHalf unicode => !word unicode before
  | .wordEndHalf unicode => !word unicode after
where
  /-- Whether there is a neighbour and it is a word character. -/
  word (unicode : Bool) (c : Option Char) : Bool :=
    c.any (Pattern.isWord unicode)

/-- Ascending positions without repetition. -/
abbrev Positions := List Nat

namespace Positions

/-- The positions in either list. -/
def union (a b : Positions) : Positions :=
  match a, b with
  | [], b => b
  | a, [] => a
  | x :: xs, y :: ys =>
      if x < y then x :: union xs (y :: ys)
      else if y < x then y :: union (x :: xs) ys
      else x :: union xs ys
termination_by a.length + b.length

/-- The positions of the first list that are not in the second. -/
def diff (a b : Positions) : Positions :=
  match a, b with
  | [], _ => []
  | a, [] => a
  | x :: xs, y :: ys =>
      if x < y then x :: diff xs (y :: ys)
      else if y < x then diff (x :: xs) ys
      else diff xs ys
termination_by a.length + b.length

/-- Repeats a step `count` times, or until nothing changes any more. -/
def iterate (step : Positions → Positions) (positions : Positions) : Nat → Positions
  | 0 => positions
  | count + 1 =>
      let next := step positions
      if next = positions then positions else iterate step next count

/-- All positions that at most `count` steps reach; each round steps only from
the positions of the last one that are new. -/
def reach (step : Positions → Positions) (seen latest : Positions) : Nat → Positions
  | 0 => seen
  | count + 1 =>
      let fresh := (step latest).diff seen
      if fresh.isEmpty then seen else reach step (seen.union fresh) fresh count

end Positions

namespace Pattern

/-- The positions where a match can end that begins at one of the given ones.
More rounds than there are positions reach nothing new. -/
def ends (text : Array Char) : Pattern → Positions → Positions
  | .empty, starts => starts
  | .oneOf set, starts =>
      starts.filterMap fun i =>
        match text[i]? with
        | some c => if set.contains c.toNat then some (i + 1) else none
        | none => none
  | .anchor a, starts =>
      starts.filter fun i =>
        let before := if i = 0 then none else text[i - 1]?
        a.holds before text[i]?
  | .seq first second, starts => second.ends text (first.ends text starts)
  | .alt first second, starts => (first.ends text starts).union (second.ends text starts)
  | .repeated body least most, starts =>
      let step := body.ends text
      let begun := Positions.iterate step starts least
      let more := match most with
        | some m => min (m - least) (text.size + 1)
        | none => text.size + 1
      Positions.reach step begun begun more
  | .group body, starts => body.ends text starts

/-- Whether the pattern matches some part of a text. -/
def isMatch (pattern : Pattern) (text : String) : Bool :=
  let chars := text.toList.toArray
  !(pattern.ends chars (List.range (chars.size + 1))).isEmpty

end Pattern
end ApiContract
