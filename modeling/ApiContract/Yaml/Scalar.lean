import ApiContract.Binary64.Decimal

/-!
# YAML scalars

A scalar is its text with its style and tag.  Read where a number, a flag or
nothing is expected, a plain scalar is matched against the core schema; read
where a string is expected, it is its text; read where anything may stand, it
is resolved.
-/

namespace ApiContract
namespace Yaml

/-- How a scalar is written. -/
inductive Style where
  | plain
  | singleQuoted
  | doubleQuoted
  | literal
  | folded
  deriving DecidableEq, Repr

/-- A scalar: its text after unfolding and unescaping, its style and its tag. -/
structure Scalar where
  text : String
  style : Style
  tag : Option String
  deriving DecidableEq, Repr

namespace Scalar

/-- The name space of the tags of the core schema. -/
def coreTag (name : String) : String :=
  "tag:yaml.org,2002:" ++ name

/-- Whether a text denotes null. -/
def denotesNull (text : String) : Bool :=
  text = "null" || text = "Null" || text = "NULL" || text = "~"

/-- The flag that a text denotes. -/
def bool? (text : String) : Option Bool :=
  if text = "true" || text = "True" || text = "TRUE" then some true
  else if text = "false" || text = "False" || text = "FALSE" then some false
  else none

/-- The value of a digit below the base. -/
def digit? (base : Nat) (c : Char) : Option Nat :=
  let value :=
    if '0' ≤ c && c ≤ '9' then c.toNat - 48
    else if 'a' ≤ c && c ≤ 'z' then c.toNat - 87
    else if 'A' ≤ c && c ≤ 'Z' then c.toNat - 55
    else 36
  if value < base then some value else none

/-- The number that one or more digits write. -/
def natural? (base : Nat) : List Char → Option Nat
  | [] => none
  | digits => digits.foldlM (fun n c => (digit? base c).map (n * base + ·)) 0

/-- Whether a text is a zero followed by digits, after an optional sign: such a
text is a string. -/
def isPaddedDigits (text : List Char) : Bool :=
  let digits := match text with
    | '-' :: rest => rest
    | '+' :: rest => rest
    | _ => text
  match digits with
  | '0' :: c :: rest => (c :: rest).all Ascii.isDigit
  | _ => false

/-- The magnitude after one of the marks of a base, where there is one. -/
def based? (text : List Char) : Option Nat :=
  match text with
  | '0' :: 'x' :: rest => natural? 16 rest
  | '0' :: 'o' :: rest => natural? 8 rest
  | '0' :: 'b' :: rest => natural? 2 rest
  | _ => none

/-- The nonnegative integer that a text denotes: decimal, or in base 16, 8 or 2
after its mark, with an optional plus sign. -/
def unsigned? (text : List Char) : Option Nat :=
  let digits := match text with
    | '+' :: rest => rest
    | _ => text
  match based? digits with
  | some n => some n
  | none => if isPaddedDigits text then none else natural? 10 digits

/-- The negative or zero integer that a text with a minus sign denotes. -/
def negative? (text : List Char) : Option Int :=
  match text with
  | '-' :: digits =>
      match based? digits with
      | some n => some (-(n : Int))
      | none => if isPaddedDigits text then none else (natural? 10 digits).map fun n => -(n : Int)
  | _ => none

/-- The float that a text denotes: decimal and finite, or one of the words of
the core schema. -/
def float? (text : List Char) : Option Binary64 :=
  let positive? := match text with
    | '+' :: '+' :: _ => none
    | '+' :: '-' :: _ => none
    | '+' :: rest => some rest
    | _ => some text
  positive?.bind fun positive =>
    let bare := String.ofList positive
    let whole := String.ofList text
    if bare = ".inf" || bare = ".Inf" || bare = ".INF" then some (.infinite false)
    else if whole = "-.inf" || whole = "-.Inf" || whole = "-.INF" then some (.infinite true)
    else if whole = ".nan" || whole = ".NaN" || whole = ".NAN" then some .nan
    else (Binary64.ofText? positive).filter Binary64.isFinite

/-- What a scalar denotes where anything may stand. -/
inductive Resolved where
  | null
  | bool (value : Bool)
  | integer (value : Int)
  | float (value : Binary64)
  | string (value : String)

/-- The integer that a text denotes: `none` if it denotes none, and `some none`
if it denotes one of more than 64 bits, which nothing can hold. -/
def integer? (text : List Char) : Option (Option Int) :=
  match unsigned? text with
  | some n =>
      if n < Nat.pow 2 64 then some (some n)
      else if n < Nat.pow 2 128 then some none
      else none
  | none =>
      match negative? text with
      | some n =>
          if -(Nat.pow 2 63 : Int) ≤ n then some (some n)
          else if -(Nat.pow 2 127 : Int) ≤ n then some none
          else none
      | none => none

/-- What the text of an untagged plain scalar denotes. -/
def resolvePlain? (text : String) : Option Resolved :=
  if text = "" || denotesNull text then some .null
  else
    match bool? text with
    | some b => some (.bool b)
    | none =>
        let chars := text.toList
        match integer? chars with
        | some n? => n?.map .integer
        | none =>
            if isPaddedDigits chars then some (.string text)
            else
              match float? chars with
              | some x => some (.float x)
              | none => some (.string text)

/-- The name of a tag of the document's own: what follows its mark, or the mark
alone. -/
def localTag? (tag : Option String) : Option String :=
  match tag.map String.toList with
  | some ['!'] => some "!"
  | some ('!' :: rest) => some (String.ofList rest)
  | _ => none

/-- What a scalar denotes where anything may stand.  A tag of the core schema
forces its type, a tag of the document's own has no meaning, and every other
scalar that is not plain is a string. -/
def resolve? (s : Scalar) : Option Resolved :=
  if (localTag? s.tag).isSome then none
  else
    match s.tag with
    | none => if s.style = .plain then resolvePlain? s.text else some (.string s.text)
    | some tag =>
        if tag = coreTag "bool" then (bool? s.text).map .bool
        else if tag = coreTag "int" then
          match integer? s.text.toList with
          | some n? => n?.map .integer
          | none => none
        else if tag = coreTag "float" then (float? s.text.toList).map .float
        else if tag = coreTag "null" then if denotesNull s.text then some .null else none
        else some (.string s.text)

/-- Whether the scalar is written as nothing at all. -/
def isEmptyPlain (s : Scalar) : Bool :=
  s.text = "" && s.style = .plain

/-- Whether the scalar is absent where a value is optional; `none` where a null
tag stands before another text. -/
def isAbsent? (s : Scalar) : Option Bool :=
  if s.style ≠ .plain then some false
  else
    match s.tag with
    | some tag =>
        if tag = coreTag "null" then if denotesNull s.text then some true else none
        else some false
    | none => some (s.text = "" || denotesNull s.text)

/-- Whether the scalar may stand for a number or flag with this tag: written
plain, or as a literal block under the tag. -/
def isLiteralOf (tag : String) (s : Scalar) : Bool :=
  s.style = .plain || (s.style = .literal && s.tag = some (coreTag tag))

/-- The flag read from the scalar. -/
def toBool? (s : Scalar) : Option Bool :=
  if s.isLiteralOf "bool" then bool? s.text else none

/-- The 64-bit count read from the scalar. -/
def toCount? (s : Scalar) : Option Nat :=
  if s.isLiteralOf "int" then (unsigned? s.text.toList).filter (· < Nat.pow 2 64) else none

/-- The float read from the scalar. -/
def toFloat? (s : Scalar) : Option Binary64 :=
  if s.isLiteralOf "float" then float? s.text.toList else none

end Scalar
end Yaml
end ApiContract
