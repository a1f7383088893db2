import ApiContract.Domain.Mapping
import ApiContract.Domain.Punycode
import ApiContract.Unicode.Category
import ApiContract.Unicode.Composition
import ApiContract.Unicode.Direction

/-!
# Domain names in ASCII

`Domain.toAscii?` maps the characters of a name, composes them, checks every label,
and writes the labels that are not ASCII in Punycode after `xn--`.
-/

namespace ApiContract
namespace Domain

/-- Combining marks. -/
def marks : Unicode.Ranges :=
  (Unicode.category? "m").getD []

/-- Whether a letter that joins to the left stands before, past transparent ones. -/
def joinsBefore (before : List Nat) : Bool :=
  match before.dropWhile fun n => Unicode.joining n = .transparent with
  | n :: _ => Unicode.joining n = .left || Unicode.joining n = .dual
  | [] => false

/-- Whether a letter that joins to the right stands after, past transparent ones. -/
def joinsAfter (after : List Nat) : Bool :=
  match after.dropWhile fun n => Unicode.joining n = .transparent with
  | n :: _ => Unicode.joining n = .right || Unicode.joining n = .dual
  | [] => false

/-- Whether the joiners of a label stand where they have a meaning: after a virama,
or, for the non-joiner, between letters that would join.  `before` is given last
first. -/
def joinersAreMeant (before : List Nat) : List Nat → Bool
  | [] => true
  | n :: rest =>
      let afterVirama := before.head?.any fun m => Unicode.combiningClass m = 9
      let isMeant :=
        if n = 0x200C then afterVirama || (joinsBefore before && joinsAfter rest)
        else if n = 0x200D then afterVirama
        else true
      isMeant && joinersAreMeant (n :: before) rest

/-- Whether a label may stand in a name: its characters are kept as they are, it is
composed, no mark begins it, and its joiners are meant. -/
def isValidLabel (label : List Nat) : Bool :=
  label.all kept.contains && Unicode.composed label = label &&
    !(label.head?.any marks.contains) && joinersAreMeant [] label

/-- Whether a character makes a name bidirectional. -/
def isRightToLeft (n : Nat) : Bool :=
  let c := Unicode.bidiClass n
  c = .right || c = .arabicLetter || c = .arabicNumber

/-- Whether a class may stand in a label of either direction. -/
def isNeutral (c : Unicode.BidiClass) : Bool :=
  c = .europeanNumber || c = .europeanSeparator || c = .commonSeparator ||
    c = .europeanTerminator || c = .otherNeutral || c = .boundaryNeutral ||
    c = .nonspacingMark

/-- Whether a label of a bidirectional name keeps to one direction. -/
def isDirected (label : List Nat) : Bool :=
  let classes := label.map Unicode.bidiClass
  let ending := (classes.reverse.dropWhile (· = .nonspacingMark)).head?
  match classes with
  | [] => true
  | first :: _ =>
      if first = .left then
        classes.all (fun c => c = .left || isNeutral c) &&
          (ending = some .left || ending = some .europeanNumber)
      else if first = .right || first = .arabicLetter then
        classes.all (fun c =>
          c = .right || c = .arabicLetter || c = .arabicNumber || isNeutral c) &&
        (ending = some .right || ending = some .arabicLetter ||
          ending = some .europeanNumber || ending = some .arabicNumber) &&
        !(classes.contains .europeanNumber && classes.contains .arabicNumber)
      else false

/-- The code points of a label, decoded where it is written in Punycode; `none` if
it is not well formed. -/
def readLabel? (label : List Nat) : Option (List Nat) :=
  match label with
  | 120 :: 110 :: 45 :: 45 :: rest => do
      let decoded ← Punycode.decode? (rest.map Char.ofNat)
      if decoded.any (128 ≤ ·) && rest.length ≤ 2000 && isValidLabel decoded then
        return decoded
      else none
  | _ =>
      if label.all (· < 128) || isValidLabel label then some label else none

/-- A label in ASCII. -/
def writeLabel? (label : List Nat) : Option (List Char) :=
  if label.all (· < 128) then some (label.map Char.ofNat)
  else if label.length ≤ 1000 then some (['x', 'n', '-', '-'] ++ Punycode.encode label)
  else none

/-- Joins labels with dots. -/
def joinLabels : List (List Char) → List Char
  | [] => []
  | [label] => label
  | label :: rest => label ++ '.' :: joinLabels rest

/-- A domain name in ASCII, or `none` if it has no such form.  Characters of ASCII
that `isDenied` names are refused. -/
def toAscii? (isDenied : Nat → Bool) (name : List Char) : Option (List Char) := do
  let mapped ← name.mapM fun c => map? c.toNat
  let labels ← ((Unicode.composed mapped.flatten).splitOn 46).mapM readLabel?
  if labels.any (fun label => label.any isDenied) then none
  if labels.any (fun label => label.any isRightToLeft) && !labels.all isDirected then none
  let written ← labels.mapM writeLabel?
  return joinLabels written

end Domain
end ApiContract
