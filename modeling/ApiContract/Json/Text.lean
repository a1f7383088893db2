import ApiContract.Json.Literal
import ApiContract.Node.Basic
import ApiContract.Text.Ascii

/-!
# Reading JSON text

`Json.read?` reads a text as a node: it checks the grammar and keeps what only
matters once a value is used (a number that is too large, an escape that is half
of a character) as an unreadable leaf.  `Json.parse?` reads a value.
-/

namespace ApiContract
namespace Json

/-- Whether a character is blank in JSON. -/
def isSpace (c : Char) : Bool :=
  c = ' ' || c = '\t' || c = '\n' || c = '\r'

/-- The text after its leading blanks. -/
def skipSpace (text : List Char) : List Char :=
  text.dropWhile isSpace

/-- A piece of a string: a character, or a 16-bit unit from an escape. -/
inductive StringPiece where
  | char (c : Char)
  | unit (value : Nat)

/-- Reads the pieces of a string up to its closing quote.  Control characters
are refused. -/
def readPieces : List Char → Option (List StringPiece × List Char)
  | [] => none
  | '"' :: rest => some ([], rest)
  | '\\' :: 'u' :: a :: b :: c :: d :: rest => do
      let n ← Ascii.hexNumber? [a, b, c, d]
      let (pieces, rest) ← readPieces rest
      return (.unit n :: pieces, rest)
  | '\\' :: e :: rest => do
      let c ← match e with
        | '"' => some '"'
        | '\\' => some '\\'
        | '/' => some '/'
        | 'b' => some '\x08'
        | 'f' => some '\x0c'
        | 'n' => some '\n'
        | 'r' => some '\r'
        | 't' => some '\t'
        | _ => none
      let (pieces, rest) ← readPieces rest
      return (.char c :: pieces, rest)
  | c :: rest =>
      if c.toNat < 32 || c = '\\' then none
      else do
        let (pieces, rest) ← readPieces rest
        return (.char c :: pieces, rest)

/-- The characters of the pieces; `none` if a unit is half of a character. -/
def charsOfPieces? : List StringPiece → Option (List Char)
  | [] => some []
  | .char c :: rest => (charsOfPieces? rest).map (c :: ·)
  | .unit high :: .unit low :: rest =>
      if 0xD800 ≤ high ∧ high < 0xDC00 then
        if 0xDC00 ≤ low ∧ low < 0xE000 then
          (charsOfPieces? rest).map
            (Char.ofNat (0x10000 + (high - 0xD800) * 0x400 + (low - 0xDC00)) :: ·)
        else none
      else if 0xDC00 ≤ high ∧ high < 0xE000 then none
      else (charsOfPieces? (.unit low :: rest)).map (Char.ofNat high :: ·)
  | .unit n :: rest =>
      if 0xD800 ≤ n ∧ n < 0xE000 then none
      else (charsOfPieces? rest).map (Char.ofNat n :: ·)

/-- Reads a string after its opening quote. -/
def readString (text : List Char) : Option (Node × List Char) := do
  let (pieces, rest) ← readPieces text
  let node := match charsOfPieces? pieces with
    | some chars => .string (String.ofList chars)
    | none => .unreadable
  return (node, rest)

/-- Reads digits, at least one. -/
def readDigits (text : List Char) : Option (List Char × List Char) :=
  let digits := text.takeWhile Ascii.isDigit
  if digits.isEmpty then none else some (digits, text.dropWhile Ascii.isDigit)

/-- Reads the part of a number after the point, where there is one. -/
def readFraction (text : List Char) : Option (Option (List Char) × List Char) :=
  match text with
  | '.' :: rest => do
      let (digits, rest) ← readDigits rest
      return (some digits, rest)
  | _ => some (none, text)

/-- Reads the exponent of a number, where there is one. -/
def readExponent (text : List Char) : Option (Option Int × List Char) :=
  match text with
  | c :: rest =>
      if c = 'e' || c = 'E' then do
        let (negative, rest) := match rest with
          | '+' :: rest => (false, rest)
          | '-' :: rest => (true, rest)
          | _ => (false, rest)
        let (digits, rest) ← readDigits rest
        let n : Int := Ascii.decimal digits
        return (some (if negative then -n else n), rest)
      else some (none, text)
  | [] => some (none, [])

/-- Reads a number; a leading zero stands alone. -/
def readNumber (text : List Char) : Option (Node × List Char) := do
  let (negative, text) := match text with
    | '-' :: rest => (true, rest)
    | _ => (false, text)
  let (whole, rest) ← match text with
    | '0' :: c :: rest => if Ascii.isDigit c then none else some (['0'], c :: rest)
    | _ => readDigits text
  let (fraction, rest) ← readFraction rest
  let (exponent, rest) ← readExponent rest
  let literal : NumberLiteral := { negative, whole, fraction, exponent }
  let node := match literal.toNumber? with
    | some n => .number n
    | none => .unreadable
  return (node, rest)

/-- Reads the rest of a word. -/
def readWord (word : List Char) (node : Node) (text : List Char) :
    Option (Node × List Char) :=
  if word.isPrefixOf text then some (node, text.drop word.length) else none

mutual
/-- Reads a value; `fuel` bounds the length of the text. -/
def readValue (fuel : Nat) (text : List Char) : Option (Node × List Char) :=
  match fuel with
  | 0 => none
  | fuel + 1 =>
      match skipSpace text with
      | [] => none
      | c :: rest =>
          if c = '"' then readString rest
          else if c = '[' then
            match skipSpace rest with
            | ']' :: rest => some (.array [], rest)
            | rest => do
                let (items, rest) ← readItems fuel rest
                return (.array items, rest)
          else if c = '\x7b' then
            match skipSpace rest with
            | '\x7d' :: rest => some (.mapping false [], rest)
            | rest => do
                let (entries, rest) ← readMembers fuel rest
                return (.mapping false entries, rest)
          else if c = 't' then readWord ['r', 'u', 'e'] (.bool true) rest
          else if c = 'f' then readWord ['a', 'l', 's', 'e'] (.bool false) rest
          else if c = 'n' then readWord ['u', 'l', 'l'] .null rest
          else if c = '-' || Ascii.isDigit c then readNumber (c :: rest)
          else none

/-- Reads the items of an array up to its closing bracket. -/
def readItems (fuel : Nat) (text : List Char) : Option (List Node × List Char) :=
  match fuel with
  | 0 => none
  | fuel + 1 => do
      let (item, rest) ← readValue fuel text
      match skipSpace rest with
      | ',' :: rest => do
          let (items, rest) ← readItems fuel rest
          return (item :: items, rest)
      | ']' :: rest => return ([item], rest)
      | _ => none

/-- Reads the members of an object up to its closing brace. -/
def readMembers (fuel : Nat) (text : List Char) :
    Option (List (Node × Node) × List Char) :=
  match fuel with
  | 0 => none
  | fuel + 1 =>
      match skipSpace text with
      | '"' :: rest => do
          let (key, rest) ← readString rest
          match skipSpace rest with
          | ':' :: rest => do
              let (value, rest) ← readValue fuel rest
              match skipSpace rest with
              | ',' :: rest => do
                  let (entries, rest) ← readMembers fuel rest
                  return ((key, value) :: entries, rest)
              | '\x7d' :: rest => return ([(key, value)], rest)
              | _ => none
          | _ => none
      | _ => none
end

/-- Reads a whole text as a node. -/
def read? (text : List Char) : Option Node :=
  match readValue (text.length + 1) text with
  | some (node, rest) => if (skipSpace rest).isEmpty then some node else none
  | none => none

/-- How deep containers may be nested in a JSON text that is read. -/
def depthLimit : Nat := 127

/-- Reads a whole text as a value. -/
def parse? (text : List Char) : Option Json :=
  (read? text).bind (Node.toJson? depthLimit)

end Json
end ApiContract
