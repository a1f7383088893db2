import ApiContract.Text.Utf8
import ApiContract.Yaml.Token.Basic
import ApiContract.Yaml.Token.Cursor

/-!
# Tags, anchors and directives
-/

namespace ApiContract
namespace Yaml
namespace Token

/-- Reads the name of an anchor or alias. -/
def readName? (c : Cursor) : Option (String × Cursor) :=
  let (name, c) := c.takeWhile isWord
  let isEnd := c.isGap 0 ||
    c.satisfies fun x => ['?', ':', ',', ']', '\x7d', '%', '@', '\x60'].contains x
  if name.isEmpty || !isEnd then none else some (String.ofList name, c)

/-- Reads a tag handle: an exclamation mark, a name and perhaps another mark.  In a
directive only the mark alone may lack the second one. -/
def readHandle? (isDirective : Bool) (c : Cursor) : Option (List Char × Cursor) :=
  if !c.isAt '!' then none
  else
    let (name, c) := (c.skip 1).takeWhile isWord
    if c.isAt '!' then some ('!' :: (name ++ ['!']), c.skip 1)
    else if isDirective && !name.isEmpty then none
    else some ('!' :: name, c)

/-- Whether a character may stand in a tag.  Within angle brackets commas and square
brackets may, too. -/
def isTagChar (isVerbatim : Bool) (x : Char) : Bool :=
  isWord x ||
    [';', '/', '?', ':', '@', '&', '=', '+', '$', '.', '%', '!', '~', '*', '\'', '(',
      ')'].contains x ||
    (isVerbatim && (x = ',' || x = '[' || x = ']'))

/-- The bytes of a tag, with its escapes decoded. -/
def tagBytes? : List Char → Option (List UInt8)
  | [] => some []
  | '%' :: a :: b :: rest => do
      let n ← Ascii.hexNumber? [a, b]
      let bytes ← tagBytes? rest
      return UInt8.ofNat n :: bytes
  | '%' :: _ => none
  | x :: rest => do
      let bytes ← tagBytes? rest
      return Utf8.encodeChar x ++ bytes

/-- Reads the characters of a tag after `start`, which is at least one character with
what `start` holds. -/
def readTagText? (isVerbatim : Bool) (start : List Char) (c : Cursor) :
    Option (List Char × Cursor) := do
  let (text, c) := c.takeWhile (isTagChar isVerbatim)
  let chars ← Utf8.decode? (← tagBytes? text)
  if start.isEmpty && text.isEmpty then none else some (start.drop 1 ++ chars, c)

/-- Reads a tag. -/
def readTag? (inFlow : Bool) (c : Cursor) : Option (Token × Cursor) := do
  let (token, c) ←
    if c.ahead? 1 = some '<' then do
      let (text, c) ← readTagText? true [] (c.skip 2)
      if c.isAt '>' then pure (Token.tag "" (String.ofList text), c.skip 1) else none
    else do
      let (handle, next) ← readHandle? false c
      if handle.length ≥ 2 && handle.getLast? = some '!' then
        let (text, next) ← readTagText? false [] next
        pure (Token.tag (String.ofList handle) (String.ofList text), next)
      else
        let (text, next) ← readTagText? false handle next
        if text.isEmpty then pure (Token.tag "" "!", next)
        else pure (Token.tag "!" (String.ofList text), next)
  if c.isGap 0 || (inFlow && c.isAt ',') then some (token, c) else none

/-- Reads a number of at most nine digits. -/
def readVersionNumber? (c : Cursor) : Option (Nat × Cursor) :=
  let (digits, c) := c.takeWhile Ascii.isDigit
  if digits.isEmpty || digits.length > 9 then none
  else some (Ascii.decimal digits, c)

/-- Reads a directive up to the end of its line. -/
def readDirective? (c : Cursor) : Option (Token × Cursor) := do
  let (name, c) := (c.skip 1).takeWhile isWord
  if name.isEmpty || !c.isGap 0 then none
  else
    let c := c.skipWhile isBlank
    let (token, c) ←
      if name = "YAML".toList then do
        let (major, c) ← readVersionNumber? c
        if c.isAt '.' then
          let (minor, c) ← readVersionNumber? (c.skip 1)
          pure (Token.version major minor, c)
        else none
      else if name = "TAG".toList then do
        let (handle, c) ← readHandle? true c
        if !c.satisfies isBlank then none
        else
          let (text, c) ← readTagText? true [] (c.skipWhile isBlank)
          if c.isGap 0 then pure (Token.tagHandle (String.ofList handle) (String.ofList text), c)
          else none
      else none
    let c ← c.finishLine?
    return (token, c)

end Token
end Yaml
end ApiContract
