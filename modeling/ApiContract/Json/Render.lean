import ApiContract.Binary64.Shortest
import ApiContract.Json.Basic

/-!
# Compact JSON text

A value is written without blanks; quotes, backslashes and control characters
are escaped.
-/

namespace ApiContract
namespace Json

/-- A hexadecimal digit in lower case. -/
def hexDigit (n : Nat) : Char :=
  if n < 10 then Char.ofNat (48 + n) else Char.ofNat (87 + n)

/-- The text of a character inside a string. -/
def escape (c : Char) : List Char :=
  if c = '"' then ['\\', '"']
  else if c = '\\' then ['\\', '\\']
  else if c = '\x08' then ['\\', 'b']
  else if c = '\x0c' then ['\\', 'f']
  else if c = '\n' then ['\\', 'n']
  else if c = '\r' then ['\\', 'r']
  else if c = '\t' then ['\\', 't']
  else if c.toNat < 32 then
    ['\\', 'u', '0', '0', hexDigit (c.toNat / 16), hexDigit (c.toNat % 16)]
  else [c]

/-- The text of a string. -/
def renderString (s : String) : List Char :=
  '"' :: (s.toList.flatMap escape ++ ['"'])

/-- The text of a number; one that is not finite is written as null. -/
def renderNumber : Number → List Char
  | .integer n => (toString n).toList
  | .float x => (x.render?.getD "null").toList

mutual
/-- The text of a value. -/
def renderChars : Json → List Char
  | .null => ['n', 'u', 'l', 'l']
  | .bool true => ['t', 'r', 'u', 'e']
  | .bool false => ['f', 'a', 'l', 's', 'e']
  | .number n => renderNumber n
  | .string s => renderString s
  | .array items => '[' :: (renderItems items ++ [']'])
  | .object members => '\x7b' :: (renderMembers members ++ ['\x7d'])

/-- The items of an array, separated by commas. -/
def renderItems : List Json → List Char
  | [] => []
  | [x] => renderChars x
  | x :: y :: rest => renderChars x ++ ',' :: renderItems (y :: rest)

/-- The members of an object, separated by commas. -/
def renderMembers : List (String × Json) → List Char
  | [] => []
  | [(k, x)] => renderString k ++ ':' :: renderChars x
  | (k, x) :: m :: rest =>
      renderString k ++ ':' :: (renderChars x ++ ',' :: renderMembers (m :: rest))
end

/-- The compact text of a value. -/
def render (value : Json) : String :=
  String.ofList value.renderChars

end Json
end ApiContract
