import ApiContract.Pattern.Basic
import ApiContract.Text.Blank
import ApiContract.Unicode.Folding
import ApiContract.Unicode.Script

/-!
# Character classes by name

Classes that a pattern names: the letters after a backslash, the names between
`[:` and `:]`, and Unicode properties.  With the Unicode flag off only ASCII
counts.
-/

namespace ApiContract
namespace Pattern

/-- Blanks. -/
def blankRanges : Unicode.Ranges :=
  (Unicode.property? "whitespace").getD []

/-- Decimal digits. -/
def digitRanges : Unicode.Ranges :=
  (Unicode.category? "nd").getD []

/-- The class of a letter after a backslash, in lower case. -/
def letterClass? (unicode : Bool) (letter : Char) : Option Unicode.Ranges :=
  if letter = 'd' then some (if unicode then digitRanges else [(48, 57)])
  else if letter = 's' then some (if unicode then blankRanges else [(9, 13), (32, 32)])
  else if letter = 'w' then
    some (if unicode then wordRanges else [(48, 57), (65, 90), (95, 95), (97, 122)])
  else none

/-- The class of a name between `[:` and `:]`. -/
def asciiClass? (name : String) : Option Unicode.Ranges :=
  match name with
  | "alnum" => some [(48, 57), (65, 90), (97, 122)]
  | "alpha" => some [(65, 90), (97, 122)]
  | "ascii" => some [(0, 127)]
  | "blank" => some [(9, 9), (32, 32)]
  | "cntrl" => some [(0, 31), (127, 127)]
  | "digit" => some [(48, 57)]
  | "graph" => some [(33, 126)]
  | "lower" => some [(97, 122)]
  | "print" => some [(32, 126)]
  | "punct" => some [(33, 47), (58, 64), (91, 96), (123, 126)]
  | "space" => some [(9, 13), (32, 32)]
  | "upper" => some [(65, 90)]
  | "word" => some [(48, 57), (65, 90), (95, 95), (97, 122)]
  | "xdigit" => some [(48, 57), (65, 70), (97, 102)]
  | _ => none

/-- A property name or value without case, blanks, underscores, hyphens, other
characters than ASCII, and a leading `is`. -/
def looseName (name : String) : String :=
  let chars := name.toList
  let stripped := match chars with
    | i :: s :: rest =>
        if Ascii.lower i = 'i' && Ascii.lower s = 's' then (true, rest) else (false, chars)
    | _ => (false, chars)
  let kept := (stripped.2.filter fun c =>
    c.toNat < 128 && c ≠ ' ' && c ≠ '_' && c ≠ '-').map Ascii.lower
  if stripped.1 && kept = ['c'] then "isc" else String.ofList kept

/-- The general categories by name, and the three sets that are named like one. -/
def categoryNamed? (name : String) : Option Unicode.Ranges :=
  if name = "any" then some [(0, 0x10FFFF)]
  else if name = "ascii" then some [(0, 127)]
  else if name = "assigned" then
    (Unicode.category? "cn").map Unicode.Ranges.complement
  else Unicode.category? name

/-- The class of a property that is given by one name: a binary property, a
general category or a script, in this order. -/
def propertyNamed? (name : String) : Option Unicode.Ranges :=
  let key := looseName name
  let binary := if key = "cf" || key = "sc" || key = "lc" then none else Unicode.property? key
  binary <|> categoryNamed? key <|> Unicode.script? key

/-- The class of a property that is given by its name and its value. -/
def propertyValued? (name value : String) : Option Unicode.Ranges :=
  let key := looseName name
  let wanted := looseName value
  if key = "gc" || key = "generalcategory" then categoryNamed? wanted
  else if key = "sc" || key = "script" then Unicode.script? wanted
  else if key = "scx" || key = "scriptextensions" then Unicode.scriptExtension? wanted
  else none

/-- All characters that are equal to one of the set up to the case of ASCII. -/
def asciiCaseClosure (set : Unicode.Ranges) : Unicode.Ranges :=
  (List.range 26).foldl (fun all i =>
    let all := if set.contains (65 + i) then all.union [(97 + i, 97 + i)] else all
    if set.contains (97 + i) then all.union [(65 + i, 65 + i)] else all) set

/-- Whether a set holds only characters of ASCII. -/
def isAsciiSet (set : Unicode.Ranges) : Bool :=
  set.all fun r => r.2 < 128

end Pattern
end ApiContract
