import ApiContract.Text.Ascii

/-!
# Positions in a YAML text

A cursor is the rest of a text with the place where it begins.  Line breaks are line
feeds, carriage returns, the two together, next lines, and line and paragraph
separators.
-/

namespace ApiContract
namespace Yaml

/-- Whether a character ends a line. -/
def isBreak (c : Char) : Bool :=
  c = '\n' || c = '\r' || c = '\u0085' || c = '\u2028' || c = '\u2029'

/-- Whether a character is a space or a tab. -/
def isBlank (c : Char) : Bool :=
  c = ' ' || c = '\t'

/-- Whether a character may stand in the name of an anchor or tag handle. -/
def isWord (c : Char) : Bool :=
  Ascii.isAlphanumeric c || c = '_' || c = '-'

/-- Whether a character may stand in a text at all. -/
def isAllowed (c : Char) : Bool :=
  let n := c.toNat
  c = '\t' || c = '\n' || c = '\r' || (0x20 ≤ n && n ≤ 0x7E) || n = 0x85 ||
    (0xA0 ≤ n && n ≤ 0xFFFD) || 0x10000 ≤ n

/-- The rest of a text and the place where it begins. -/
structure Cursor where
  rest : List Char
  index : Nat := 0
  line : Nat := 0
  column : Nat := 0

namespace Cursor

/-- The next character. -/
def peek? (c : Cursor) : Option Char :=
  c.rest.head?

/-- The character `n` places ahead. -/
def ahead? (c : Cursor) (n : Nat) : Option Char :=
  c.rest[n]?

/-- Whether the next character is `x`. -/
def isAt (c : Cursor) (x : Char) : Bool :=
  c.peek? = some x

/-- Whether the character `n` places ahead is a blank, a break or the end. -/
def isGap (c : Cursor) (n : Nat) : Bool :=
  (c.ahead? n).all fun x => isBlank x || isBreak x

/-- Whether the line ends here. -/
def isLineEnd (c : Cursor) : Bool :=
  c.peek?.all isBreak

/-- Whether the next character satisfies a predicate. -/
def satisfies (c : Cursor) (p : Char → Bool) : Bool :=
  c.peek?.any p

/-- The cursor after the next `n` characters of the line. -/
def skip (c : Cursor) (n : Nat) : Cursor :=
  { c with rest := c.rest.drop n, index := c.index + n, column := c.column + n }

/-- The characters that satisfy a predicate, and the cursor after them. -/
def takeWhile (c : Cursor) (p : Char → Bool) : List Char × Cursor :=
  let taken := c.rest.takeWhile p
  (taken, c.skip taken.length)

/-- The cursor after the characters that satisfy a predicate. -/
def skipWhile (c : Cursor) (p : Char → Bool) : Cursor :=
  (c.takeWhile p).2

/-- A line break as it is kept in a scalar, and the cursor after it.  Separators stay,
all other breaks become line feeds. -/
def readBreak (c : Cursor) : List Char × Cursor :=
  let next (n : Nat) : Cursor :=
    ⟨c.rest.drop n, c.index + n, c.line + 1, 0⟩
  match c.rest with
  | '\r' :: '\n' :: _ => (['\n'], next 2)
  | x :: _ =>
      if x = '\u2028' || x = '\u2029' then ([x], next 1)
      else if isBreak x then (['\n'], next 1)
      else ([], c)
  | [] => ([], c)

/-- The cursor after a line break. -/
def skipBreak (c : Cursor) : Cursor :=
  c.readBreak.2

/-- The cursor after blanks and a comment. -/
def skipComment (c : Cursor) : Cursor :=
  if c.isAt '#' then c.skipWhile fun x => !isBreak x else c

/-- The cursor at the start of the next line, if only blanks and a comment are left on
this one. -/
def finishLine? (c : Cursor) : Option Cursor :=
  let c := (c.skipWhile isBlank).skipComment
  if c.isLineEnd then some c.skipBreak else none

/-- Whether a line begins with one of the two document marks. -/
def isDocumentMark (c : Cursor) : Bool :=
  c.column = 0 &&
    match c.rest with
    | '-' :: '-' :: '-' :: _ => c.isGap 3
    | '.' :: '.' :: '.' :: _ => c.isGap 3
    | _ => false

end Cursor
end Yaml
end ApiContract
