import ApiContract.Yaml.Token.Block
import ApiContract.Yaml.Token.Plain
import ApiContract.Yaml.Token.Tag

/-!
# Splitting a text into tokens

A key needs no mark in front: it is known for one only at the colon behind it.  The
place of each node that may still turn out a key is therefore remembered, one for each
open flow collection, and the tokens for it are put in later.  Such a key lies on one
line and within 1024 characters.
-/

namespace ApiContract
namespace Yaml

/-- The place of a node that may be a key. -/
structure KeyPlace where
  /-- The number of the token with which the node begins. -/
  number : Nat
  index : Nat
  line : Nat
  column : Nat
  /-- Whether only a key may stand there. -/
  required : Bool

/-- The state of splitting a text into tokens. -/
structure Lexer where
  cursor : Cursor
  /-- The tokens so far, the latest first. -/
  tokens : List Token := []
  /-- The column of the innermost block collection, or -1. -/
  indent : Int := -1
  outerIndents : List Int := []
  /-- Whether a key may begin here. -/
  keyAllowed : Bool := true
  /-- The possible key of the innermost collection. -/
  key : Option KeyPlace := none
  /-- The possible keys around the open flow collections. -/
  outerKeys : List (Option KeyPlace) := []

namespace Lexer

/-- Whether a flow collection is open. -/
def inFlow (l : Lexer) : Bool :=
  !l.outerKeys.isEmpty

/-- Adds a token at the end. -/
def push (l : Lexer) (token : Token) : Lexer :=
  { l with tokens := token :: l.tokens }

/-- Adds a token of `n` characters at the end. -/
def take (l : Lexer) (n : Nat) (token : Token) : Lexer :=
  { l with tokens := token :: l.tokens, cursor := l.cursor.skip n }

/-- Puts a token in front of the one with a number. -/
def insert (l : Lexer) (number : Nat) (token : Token) : Lexer :=
  let later := l.tokens.length - number
  { l with tokens := l.tokens.take later ++ token :: l.tokens.drop later }

/-- Forgets the possible key; one that is required may not be forgotten. -/
def forgetKey? (l : Lexer) : Option Lexer :=
  if l.key.any (·.required) then none else some { l with key := none }

/-- Remembers that the next node may be a key. -/
def saveKey? (l : Lexer) : Option Lexer :=
  if l.keyAllowed then do
    let c := l.cursor
    let required := !l.inFlow && l.indent = c.column
    let l ← l.forgetKey?
    return { l with key := some ⟨l.tokens.length, c.index, c.line, c.column, required⟩ }
  else some l

/-- Whether the place is too far behind for a key. -/
def isStale (c : Cursor) (place : KeyPlace) : Bool :=
  place.line < c.line || place.index + 1024 < c.index

/-- Forgets the possible keys that are too far behind. -/
def forgetStale? (l : Lexer) : Option Lexer :=
  let fresh (key : Option KeyPlace) : Option (Option KeyPlace) :=
    match key with
    | none => some none
    | some place =>
        if isStale l.cursor place then (if place.required then none else some none)
        else some (some place)
  do
    let outerKeys ← l.outerKeys.mapM fresh
    let key ← fresh l.key
    return { l with key, outerKeys }

/-- Opens a block collection at a column, if it lies deeper than the innermost one. -/
def openBlock (l : Lexer) (column number : Nat) (token : Token) : Lexer :=
  if !l.inFlow && l.indent < column then
    let l := { l with indent := column, outerIndents := l.indent :: l.outerIndents }
    l.insert number token
  else l

/-- Closes the block collections that lie deeper than a column. -/
def closeBlocksFrom (l : Lexer) (column : Int) : List Int → Lexer
  | [] => l
  | outer :: rest =>
      if column < l.indent then
        closeBlocksFrom
          { l with indent := outer, outerIndents := rest, tokens := .blockEnd :: l.tokens }
          column rest
      else l

/-- Closes the block collections that lie deeper than a column. -/
def closeBlocks (l : Lexer) (column : Int) : Lexer :=
  if l.inFlow then l else l.closeBlocksFrom column l.outerIndents

/-- Skips blanks, comments and line breaks up to the next token.  A tab is no blank
where a key of a block collection may begin. -/
def skipToToken (fuel : Nat) (l : Lexer) : Lexer :=
  match fuel with
  | 0 => l
  | fuel + 1 =>
      let c := l.cursor
      let c := if c.column = 0 && c.isAt '\ufeff' then c.skip 1 else c
      let tabs := l.inFlow || !l.keyAllowed
      let c := (c.skipWhile fun x => x = ' ' || (tabs && x = '\t')).skipComment
      if c.satisfies isBreak then
        skipToToken fuel { l with cursor := c.skipBreak, keyAllowed := l.keyAllowed || !l.inFlow }
      else { l with cursor := c }

/-- Reads a directive. -/
def directive? (l : Lexer) : Option Lexer := do
  let l ← (l.closeBlocks (-1)).forgetKey?
  let (token, cursor) ← Token.readDirective? l.cursor
  return { l with keyAllowed := false, cursor }.push token

/-- Reads a document mark. -/
def documentMark? (l : Lexer) (token : Token) : Option Lexer := do
  let l ← (l.closeBlocks (-1)).forgetKey?
  return { l with keyAllowed := false }.take 3 token

/-- Opens a flow collection. -/
def openFlow? (l : Lexer) (token : Token) : Option Lexer := do
  let l ← l.saveKey?
  return { l with outerKeys := l.key :: l.outerKeys, key := none, keyAllowed := true }.take 1 token

/-- Closes a flow collection. -/
def closeFlow? (l : Lexer) (token : Token) : Option Lexer := do
  let l ← l.forgetKey?
  let l := match l.outerKeys with
    | [] => l
    | key :: rest => { l with key, outerKeys := rest }
  return { l with keyAllowed := false }.take 1 token

/-- Reads the comma of a flow collection. -/
def flowEntry? (l : Lexer) : Option Lexer := do
  let l ← l.forgetKey?
  return { l with keyAllowed := true }.take 1 .flowEntry

/-- Reads the dash of a block sequence. -/
def blockEntry? (l : Lexer) : Option Lexer := do
  if !l.inFlow && !l.keyAllowed then none
  else
    let l := l.openBlock l.cursor.column l.tokens.length .blockSequenceStart
    let l ← l.forgetKey?
    return { l with keyAllowed := true }.take 1 .blockEntry

/-- Reads the question mark before a key. -/
def key? (l : Lexer) : Option Lexer := do
  if !l.inFlow && !l.keyAllowed then none
  else
    let l := l.openBlock l.cursor.column l.tokens.length .blockMappingStart
    let l ← l.forgetKey?
    return { l with keyAllowed := !l.inFlow }.take 1 .key

/-- Reads the colon before a value.  It makes the possible key a key. -/
def value? (l : Lexer) : Option Lexer :=
  match l.key with
  | some place =>
      let l := (l.insert place.number .key).openBlock place.column place.number .blockMappingStart
      some ({ l with key := none, keyAllowed := false }.take 1 .value)
  | none =>
      if !l.inFlow && !l.keyAllowed then none
      else
        let l := l.openBlock l.cursor.column l.tokens.length .blockMappingStart
        some ({ l with keyAllowed := !l.inFlow }.take 1 .value)

/-- Reads an alias or anchor. -/
def anchor? (l : Lexer) (token : String → Token) : Option Lexer := do
  let l ← l.saveKey?
  let (name, cursor) ← Token.readName? (l.cursor.skip 1)
  return { l with keyAllowed := false, cursor }.push (token name)

/-- Reads a tag. -/
def tag? (l : Lexer) : Option Lexer := do
  let l ← l.saveKey?
  let (token, cursor) ← Token.readTag? l.inFlow l.cursor
  return { l with keyAllowed := false, cursor }.push token

/-- Reads a block scalar. -/
def blockScalar? (l : Lexer) (folded : Bool) : Option Lexer := do
  let l ← l.forgetKey?
  let (text, cursor) ← Block.read? folded l.indent l.cursor
  let token := Token.scalar (String.ofList text) (if folded then .folded else .literal)
  return { l with keyAllowed := true, cursor }.push token

/-- Reads a quoted scalar. -/
def quotedScalar? (l : Lexer) (single : Bool) : Option Lexer := do
  let l ← l.saveKey?
  let (text, cursor) ← Quoted.read? single l.cursor
  let token := Token.scalar (String.ofList text) (if single then .singleQuoted else .doubleQuoted)
  return { l with keyAllowed := false, cursor }.push token

/-- Reads a plain scalar.  After a line break that follows it a key may begin. -/
def plainScalar? (l : Lexer) : Option Lexer := do
  let l ← l.saveKey?
  let (text, broken, cursor) ← Plain.read? l.inFlow (l.indent + 1).toNat l.cursor
  return { l with keyAllowed := broken, cursor }.push (.scalar (String.ofList text) .plain)

/-- Whether a plain scalar may begin with the next character. -/
def startsPlain (l : Lexer) (x : Char) : Bool :=
  let marks := ['-', '?', ':', ',', '[', ']', '\x7b', '\x7d', '#', '&', '*', '!', '|', '>',
    '\'', '"', '%', '@', '\x60']
  !(isBlank x || isBreak x || marks.contains x) ||
    (x = '-' && !(l.cursor.ahead? 1).any isBlank) ||
    (!l.inFlow && (x = '?' || x = ':') && !l.cursor.isGap 1)

/-- Reads the next token. -/
def token? (l : Lexer) (x : Char) : Option Lexer :=
  let c := l.cursor
  if c.column = 0 && x = '%' then l.directive?
  else if c.isDocumentMark then l.documentMark? (if x = '-' then .documentStart else .documentEnd)
  else if x = '[' then l.openFlow? .flowSequenceStart
  else if x = '\x7b' then l.openFlow? .flowMappingStart
  else if x = ']' then l.closeFlow? .flowSequenceEnd
  else if x = '\x7d' then l.closeFlow? .flowMappingEnd
  else if x = ',' then l.flowEntry?
  else if x = '-' && c.isGap 1 then l.blockEntry?
  else if x = '?' && (l.inFlow || c.isGap 1) then l.key?
  else if x = ':' && (l.inFlow || c.isGap 1) then l.value?
  else if x = '*' then l.anchor? .alias
  else if x = '&' then l.anchor? .anchor
  else if x = '!' then l.tag?
  else if x = '|' && !l.inFlow then l.blockScalar? false
  else if x = '>' && !l.inFlow then l.blockScalar? true
  else if x = '\'' then l.quotedScalar? true
  else if x = '"' then l.quotedScalar? false
  else if l.startsPlain x then l.plainScalar?
  else none

/-- Reads the tokens up to the end of the text. -/
def run? (fuel : Nat) (l : Lexer) : Option (List Token) :=
  match fuel with
  | 0 => none
  | fuel + 1 => do
      let l ← (l.skipToToken (l.cursor.rest.length + 1)).forgetStale?
      let l := l.closeBlocks l.cursor.column
      match l.cursor.peek? with
      | none =>
          let l ← (l.closeBlocks (-1)).forgetKey?
          return l.tokens.reverse
      | some x =>
          let l ← l.token? x
          run? fuel l

end Lexer

/-- The tokens of a text; `none` if it has characters that may not stand in a text or
cannot be split. -/
def Token.scan? (text : List Char) : Option (List Token) :=
  if text.all isAllowed then
    let lexer : Lexer := { cursor := { rest := text } }
    lexer.run? (text.length + 1)
  else none

end Yaml
end ApiContract
