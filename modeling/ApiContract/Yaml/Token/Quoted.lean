import ApiContract.Yaml.Token.Cursor

/-!
# Quoted scalars

Line breaks inside quotes are folded: one of them is a space, and of several the first
is dropped.  In single quotes a quote is written twice; in double quotes a backslash
starts an escape.
-/

namespace ApiContract
namespace Yaml

/-- What a run of blanks and line breaks stands for: the blanks, if it has no break. -/
structure Gap where
  blanks : List Char := []
  /-- The first break, once there is one; an escaped break is empty. -/
  first : Option (List Char) := none
  later : List Char := []

namespace Gap

/-- The text of a run after folding. -/
def text (gap : Gap) : List Char :=
  match gap.first with
  | none => gap.blanks
  | some ['\n'] => if gap.later.isEmpty then [' '] else gap.later
  | some first => first ++ gap.later

/-- Adds the next break or blank of a run. -/
def addBreak (gap : Gap) (br : List Char) : Gap :=
  match gap.first with
  | none => ⟨[], some br, []⟩
  | some first => ⟨[], some first, gap.later ++ br⟩

/-- Reads a run of blanks and breaks. -/
def read (fuel : Nat) (gap : Gap) (c : Cursor) : Gap × Cursor :=
  match fuel with
  | 0 => (gap, c)
  | fuel + 1 =>
      if c.satisfies isBlank then
        let (blanks, c) := c.takeWhile isBlank
        read fuel (if gap.first.isNone then { gap with blanks := gap.blanks ++ blanks } else gap) c
      else if c.satisfies isBreak then
        let (br, c) := c.readBreak
        read fuel (gap.addBreak br) c
      else (gap, c)

end Gap

namespace Quoted

/-- What a character after a backslash stands for, or the number of digits of the code
that follows it. -/
def escape? (x : Char) : Option (Char ⊕ Nat) :=
  match x with
  | '0' => some (.inl '\x00')
  | 'a' => some (.inl '\x07')
  | 'b' => some (.inl '\x08')
  | 't' => some (.inl '\t')
  | '\t' => some (.inl '\t')
  | 'n' => some (.inl '\n')
  | 'v' => some (.inl '\x0b')
  | 'f' => some (.inl '\x0c')
  | 'r' => some (.inl '\r')
  | 'e' => some (.inl '\x1b')
  | ' ' => some (.inl ' ')
  | '"' => some (.inl '"')
  | '/' => some (.inl '/')
  | '\\' => some (.inl '\\')
  | 'N' => some (.inl '\u0085')
  | '_' => some (.inl '\u00a0')
  | 'L' => some (.inl '\u2028')
  | 'P' => some (.inl '\u2029')
  | 'x' => some (.inr 2)
  | 'u' => some (.inr 4)
  | 'U' => some (.inr 8)
  | _ => none

/-- The character of a code, unless it is half of one or too large. -/
def charOfCode? (n : Nat) : Option Char :=
  if n < 0xD800 || (0xE000 ≤ n && n < 0x110000) then some (Char.ofNat n) else none

/-- Reads an escape after its backslash. -/
def readEscape? (c : Cursor) : Option (Char × Cursor) := do
  match ← escape? (← c.peek?) with
  | .inl x => return (x, c.skip 1)
  | .inr digits =>
      let code := (c.skip 1).rest.take digits
      if code.length < digits then none
      else
        let x ← charOfCode? (← Ascii.hexNumber? code)
        return (x, c.skip (digits + 1))

/-- Reads the text between single or double quotes, from after the opening quote to
after the closing one. -/
def readRest? (single : Bool) (fuel : Nat) (c : Cursor) : Option (List Char × Cursor) :=
  match fuel with
  | 0 => none
  | fuel + 1 =>
      if c.isDocumentMark then none
      else
        match c.rest with
        | [] => none
        | x :: rest =>
            if single && x = '\'' && rest.head? = some '\'' then do
              let (text, c) ← readRest? single fuel (c.skip 2)
              return ('\'' :: text, c)
            else if x = (if single then '\'' else '"') then some ([], c.skip 1)
            else if !single && x = '\\' then
              if rest.head?.any isBreak then
                let (gap, c) := Gap.read fuel ⟨[], some [], []⟩ (c.skip 1).skipBreak
                do
                  let (text, c) ← readRest? single fuel c
                  return (gap.text ++ text, c)
              else do
                let (x, c) ← readEscape? (c.skip 1)
                let (text, c) ← readRest? single fuel c
                return (x :: text, c)
            else if isBlank x || isBreak x then
              let (gap, c) := Gap.read fuel {} c
              do
                let (text, c) ← readRest? single fuel c
                return (gap.text ++ text, c)
            else do
              let (text, c) ← readRest? single fuel (c.skip 1)
              return (x :: text, c)

/-- Reads a quoted scalar. -/
def read? (single : Bool) (c : Cursor) : Option (List Char × Cursor) :=
  readRest? single (c.rest.length + 1) (c.skip 1)

end Quoted
end Yaml
end ApiContract
