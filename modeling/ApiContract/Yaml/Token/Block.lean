import ApiContract.Yaml.Token.Cursor

/-!
# Block scalars

A block scalar is a header line and the lines below it that are indented enough.  In a
literal scalar line breaks stay; in a folded one a single break between two lines that
do not start with a blank is a space.
-/

namespace ApiContract
namespace Yaml
namespace Block

/-- What becomes of the line breaks at the end. -/
inductive Chomping where
  | strip
  | clip
  | keep
  deriving DecidableEq

/-- Reads the mark for the line breaks at the end. -/
def readChomping (c : Cursor) : Option Chomping × Cursor :=
  if c.isAt '+' then (some .keep, c.skip 1)
  else if c.isAt '-' then (some .strip, c.skip 1)
  else (none, c)

/-- Reads the digit for the indentation, which is not zero. -/
def readIncrement? (c : Cursor) : Option (Option Nat × Cursor) :=
  match c.peek? with
  | some x =>
      if Ascii.isDigit x then
        if x = '0' then none else some (some (x.toNat - 48), c.skip 1)
      else some (none, c)
  | none => some (none, c)

/-- Reads the two marks of a header in either order. -/
def readMarks? (c : Cursor) : Option (Chomping × Option Nat × Cursor) := do
  match readChomping c with
  | (some chomping, c) =>
      let (increment, c) ← readIncrement? c
      return (chomping, increment, c)
  | (none, c) =>
      let (increment, c) ← readIncrement? c
      if increment.isNone then return (.clip, none, c)
      else
        let (chomping, c) := readChomping c
        return (chomping.getD .clip, increment, c)

/-- Skips the indentation of empty lines and of the line after them.  Without a known
indentation every space counts as such.  The answer holds the line breaks and the
greatest column reached; a tab in the indentation is refused. -/
def readEmptyLines? (indent : Option Nat) (fuel : Nat) (deepest : Nat) (c : Cursor) :
    Option (List Char × Nat × Cursor) :=
  match fuel with
  | 0 => none
  | fuel + 1 =>
      let spaces := (c.rest.takeWhile (· = ' ')).length
      let c := c.skip (match indent with
        | some n => min spaces (n - c.column)
        | none => spaces)
      let deepest := max deepest c.column
      if c.isAt '\t' && indent.all (c.column < ·) then none
      else if c.satisfies isBreak then do
        let (br, c) := c.readBreak
        let (breaks, deepest, c) ← readEmptyLines? indent fuel deepest c
        return (br ++ breaks, deepest, c)
      else some ([], deepest, c)

/-- The text between two lines: the break after the first and the breaks of empty
lines after that. -/
def joint (folded : Bool) (firstBlank secondBlank : Bool) (br breaks : List Char) :
    List Char :=
  if folded && br = ['\n'] && !firstBlank && !secondBlank then
    if breaks.isEmpty then [' '] else breaks
  else br ++ breaks

/-- Reads the lines of a scalar.  `br` and `breaks` come before the next line, and
`blank` tells whether the line before them starts with a blank. -/
def readLines? (folded : Bool) (indent : Nat) (chomping : Chomping) (fuel : Nat)
    (blank : Bool) (br breaks : List Char) (c : Cursor) : Option (List Char × Cursor) :=
  match fuel with
  | 0 => none
  | fuel + 1 =>
      if c.column = indent && !c.rest.isEmpty then do
        let startsBlank := c.satisfies isBlank
        let start := joint folded blank startsBlank br breaks
        let (line, c) := c.takeWhile fun x => !isBreak x
        let (br, c) := c.readBreak
        let (breaks, _, c) ← readEmptyLines? (some indent) (c.rest.length + 1) 0 c
        let (text, c) ← readLines? folded indent chomping fuel startsBlank br breaks c
        return (start ++ line ++ text, c)
      else
        match chomping with
        | .strip => some ([], c)
        | .clip => some (br, c)
        | .keep => some (br ++ breaks, c)

/-- Reads a block scalar inside a collection whose indentation is `outer`. -/
def read? (folded : Bool) (outer : Int) (c : Cursor) : Option (List Char × Cursor) := do
  let (chomping, increment, c) ← readMarks? (c.skip 1)
  let c ← c.finishLine?
  let fuel := c.rest.length + 1
  let known : Option Nat := increment.map fun n => (max outer 0).toNat + n
  let (breaks, deepest, c) ← readEmptyLines? known fuel 0 c
  let indent := known.getD (max (max deepest (outer + 1).toNat) 1)
  readLines? folded indent chomping fuel false [] breaks c

end Block
end Yaml
end ApiContract
