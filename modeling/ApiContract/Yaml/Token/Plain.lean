import ApiContract.Yaml.Token.Quoted

/-!
# Plain scalars

A plain scalar ends before a colon with a gap behind it, before a comment, at a line
that is not indented enough, and in flow collections before commas and brackets.  Line
breaks inside it are folded.
-/

namespace ApiContract
namespace Yaml
namespace Plain

/-- Whether a character separates the parts of flow collections. -/
def isFlowMark (x : Char) : Bool :=
  x = ',' || x = '[' || x = ']' || x = '\x7b' || x = '\x7d'

/-- Reads the characters of a scalar up to the next gap or its end.  In a flow
collection a colon right before a separator or question mark is refused. -/
def readChunk? (inFlow : Bool) : List Char → Option (List Char)
  | [] => some []
  | x :: rest =>
      if isBlank x || isBreak x then some []
      else
        let next := rest.head?
        if inFlow && x = ':' && next.any (fun y => isFlowMark y || y = '?') then none
        else if x = ':' && next.all (fun y => isBlank y || isBreak y) then some []
        else if inFlow && isFlowMark x then some []
        else (readChunk? inFlow rest).map (x :: ·)

/-- Whether a tab stands in the indentation of a line that the gap reaches. -/
def hasTabIndent (indent : Nat) (fuel : Nat) (atLineStart : Bool) (c : Cursor) : Bool :=
  match fuel with
  | 0 => false
  | fuel + 1 =>
      if c.isAt '\t' && atLineStart && c.column < indent then true
      else if c.satisfies isBlank then hasTabIndent indent fuel atLineStart (c.skip 1)
      else if c.satisfies isBreak then hasTabIndent indent fuel true c.skipBreak
      else false

/-- Reads the chunks of a scalar.  `gap` lies before the next one.  The flag of the
answer tells whether the scalar is followed by a line break. -/
def readChunks? (inFlow : Bool) (indent : Nat) (fuel : Nat) (gap : Gap) (c : Cursor) :
    Option (List Char × Bool × Cursor) :=
  match fuel with
  | 0 => none
  | fuel + 1 =>
      if c.isDocumentMark || c.isAt '#' then some ([], gap.first.isSome, c)
      else do
        let chunk ← readChunk? inFlow c.rest
        let c := c.skip chunk.length
        let start := if chunk.isEmpty then [] else gap.text ++ chunk
        let pending := if chunk.isEmpty then gap else {}
        if c.satisfies isBlank || c.satisfies isBreak then
          if hasTabIndent indent (c.rest.length + 1) pending.first.isSome c then none
          else
            let (gap, c) := Gap.read (c.rest.length + 1) pending c
            if !inFlow && c.column < indent then some (start, gap.first.isSome, c)
            else
              let (text, broken, c) ← readChunks? inFlow indent fuel gap c
              return (start ++ text, broken, c)
        else some (start, pending.first.isSome, c)

/-- Reads a plain scalar.  `indent` is the least column of its later lines outside
flow collections. -/
def read? (inFlow : Bool) (indent : Nat) (c : Cursor) :
    Option (List Char × Bool × Cursor) :=
  readChunks? inFlow indent (c.rest.length + 1) {} c

end Plain
end Yaml
end ApiContract
