import ApiContract.Pattern.Class
import ApiContract.Pattern.Size
import ApiContract.Text.Split

/-!
# The syntax of patterns

`Pattern.ofText?` reads a pattern: alternatives, groups, repetitions, classes
with set operations, anchors, and the flags `i m s R U u x`.  There are no
references and no look-around.  Flags hold from where they are written to the end
of the group around them.
-/

namespace ApiContract
namespace Pattern

/-- The flags that are on. -/
structure Flags where
  ignoreCase : Bool := false
  multiLine : Bool := false
  dotAll : Bool := false
  anyNewline : Bool := false
  unicode : Bool := true
  ignoreSpace : Bool := false

/-- The rest of the text, the flags that hold there, and the names of the groups
before it. -/
structure Cursor where
  rest : List Char
  flags : Flags
  names : List String

/-- A step of a reader. -/
abbrev Reader (α : Type) := Cursor → Option (α × Cursor)

namespace Cursor

/-- The text after blanks and comments. -/
def dropBlanks : List Char → List Char
  | [] => []
  | c :: rest =>
      if Blank.isBlank c then dropBlanks rest
      else if c = '#' then dropComment rest
      else c :: rest
where
  /-- The text after a comment and the blanks and comments that follow it. -/
  dropComment : List Char → List Char
    | [] => []
    | c :: rest => if c = '\n' then dropBlanks rest else dropComment rest

/-- Goes past blanks and comments, where the flags ignore them. -/
def skip (cur : Cursor) : Cursor :=
  if cur.flags.ignoreSpace then { cur with rest := dropBlanks cur.rest } else cur

/-- Goes past one character. -/
def next (cur : Cursor) : Cursor :=
  { cur with rest := cur.rest.drop 1 }

/-- Goes past one character and what the flags ignore after it; `none` at the end
of the text. -/
def nextSkip? (cur : Cursor) : Option Cursor :=
  let after := cur.next.skip
  if after.rest.isEmpty then none else some after

/-- The character that follows the one at hand, where the flags ignore blanks. -/
def peek? (cur : Cursor) : Option Char :=
  if cur.flags.ignoreSpace then
    let more := cur.rest.drop 1 |>.dropWhile Blank.isBlank
    match more with
    | '#' :: comment =>
        match comment.dropWhile Blank.isBlank with
        | c :: _ => some c
        | [] => none
    | c :: _ => some c
    | [] => none
  else (cur.rest.drop 1).head?

end Cursor

/-- What a backslash and the characters after it stand for. -/
inductive Escape where
  | literal (c : Char) (isByte : Bool)
  | cls (set : Unicode.Ranges) (letter : Bool)
  | anchor (a : Anchor)

/-- The characters with a meaning of their own. -/
def isMeta (c : Char) : Bool :=
  "\\.+*?()|[]\x7b\x7d^$#&-~".toList.contains c

/-- Whether a character may follow a backslash to stand for itself. -/
def isEscapable (c : Char) : Bool :=
  isMeta c || (c.toNat < 128 && !Ascii.isAlphanumeric c && c ≠ '<' && c ≠ '>')

/-- The character of a code point, unless it is a surrogate or too large. -/
def charOf? (n : Nat) : Option Char :=
  if n < 0xD800 || (0xE000 ≤ n && n ≤ 0x10FFFF) then some (Char.ofNat n) else none

/-- Reads `count` hexadecimal digits, the first of them at hand. -/
def readHexDigits (count : Nat) (cur : Cursor) (digits : List Char) : Option (List Char × Cursor) :=
  match count with
  | 0 => some (digits, cur)
  | count + 1 =>
      match cur.rest with
      | [] => none
      | c :: _ =>
          if (Ascii.hexValue? c).isSome then
            if count = 0 then some (digits ++ [c], cur.next.skip)
            else cur.nextSkip?.bind fun cur => readHexDigits count cur (digits ++ [c])
          else none

/-- Reads hexadecimal digits up to a closing brace. -/
def readHexBraced (fuel : Nat) (cur : Cursor) (digits : List Char) : Option (List Char × Cursor) :=
  match fuel with
  | 0 => none
  | fuel + 1 =>
      match cur.nextSkip? with
      | none => none
      | some cur =>
          match cur.rest with
          | '\x7d' :: _ => if digits.isEmpty then none else some (digits, cur.next.skip)
          | c :: _ =>
              if (Ascii.hexValue? c).isSome then readHexBraced fuel cur (digits ++ [c]) else none
          | [] => none

/-- Reads a character given by its number, from the letter after the backslash. -/
def readHex (count : Nat) : Reader Escape := fun cur => do
  let cur ← cur.nextSkip?
  match cur.rest with
  | '\x7b' :: _ =>
      let (digits, cur) ← readHexBraced (cur.rest.length + 1) cur []
      let c ← (Ascii.hexNumber? digits).bind charOf?
      return (.literal c false, cur)
  | _ =>
      let (digits, cur) ← readHexDigits count cur []
      let c ← (Ascii.hexNumber? digits).bind charOf?
      return (.literal c (count = 2), cur)

/-- Reads the name of a property up to its closing brace. -/
def readPropertyName (fuel : Nat) (cur : Cursor) (name : List Char) : Option (List Char × Cursor) :=
  match fuel with
  | 0 => none
  | fuel + 1 =>
      match cur.nextSkip? with
      | none => none
      | some cur =>
          match cur.rest with
          | '\x7d' :: _ => some (name, cur.next)
          | c :: _ => readPropertyName fuel cur (name ++ [c])
          | [] => none

/-- The class of the text between the braces of a property, and whether the text
itself negates it. -/
def propertyOf? (name : List Char) : Option (Unicode.Ranges × Bool) :=
  let valued (parts : List Char × List Char) (negated : Bool) : Option (Unicode.Ranges × Bool) :=
    (propertyValued? (String.ofList parts.1) (String.ofList parts.2)).map (·, negated)
  match splitAround? ['!', '='] name with
  | some parts => valued parts true
  | none =>
      match splitAround? [':'] name with
      | some parts => valued parts false
      | none =>
          match splitAround? ['='] name with
          | some parts => valued parts false
          | none => (propertyNamed? (String.ofList name)).map (·, false)

/-- A set closed under case, where the flags ignore case. -/
def folded (flags : Flags) (set : Unicode.Ranges) : Unicode.Ranges :=
  if !flags.ignoreCase then set
  else if flags.unicode then Unicode.caseClosure set
  else asciiCaseClosure set

/-- A set after folding and negation.  With the Unicode flag off the result must
be of ASCII, since a byte alone is no character. -/
def finished? (flags : Flags) (negated : Bool) (set : Unicode.Ranges) : Option Unicode.Ranges :=
  let set := folded flags set
  let set := if negated then set.complement else set
  if flags.unicode || isAsciiSet set then some set else none

/-- Reads a property, from the letter after the backslash. -/
def readProperty (negated : Bool) : Reader Escape := fun cur => do
  if !cur.flags.unicode then none
  let cur ← cur.nextSkip?
  let ((set, inverse), cur) ← match cur.rest with
    | '\x7b' :: _ => do
        let (name, cur) ← readPropertyName (cur.rest.length + 1) cur []
        pure (← propertyOf? name, cur)
    | '\\' :: _ => none
    | c :: _ => do
        let set ← propertyNamed? (String.ofList [c])
        pure ((set, false), cur.next.skip)
    | [] => none
  let set ← finished? cur.flags (negated != inverse) set
  return (.cls set false, cur)

/-- The boundary that a name in braces after `\b` stands for. -/
def namedBoundary? (unicode : Bool) (name : String) : Option Anchor :=
  match name with
  | "start" => some (.wordStart unicode)
  | "end" => some (.wordEnd unicode)
  | "start-half" => some (.wordStartHalf unicode)
  | "end-half" => some (.wordEndHalf unicode)
  | _ => none

/-- Reads the letters of a name in braces. -/
def readBoundaryName (fuel : Nat) (cur : Cursor) (name : List Char) : List Char × Cursor :=
  match fuel with
  | 0 => (name, cur)
  | fuel + 1 =>
      match cur.rest with
      | c :: _ =>
          if Ascii.isLetter c || c = '-' then
            readBoundaryName fuel cur.next.skip (name ++ [c])
          else (name, cur)
      | [] => (name, cur)

/-- Reads what may follow `\b`: a name in braces.  Braces around anything but a
name are left to the repetition. -/
def readBoundary : Reader Escape := fun cur =>
  let unicode := cur.flags.unicode
  match cur.rest with
  | '\x7b' :: _ =>
      match cur.nextSkip? with
      | none => none
      | some inner =>
          match inner.rest with
          | c :: _ =>
              if Ascii.isLetter c || c = '-' then do
                let (name, after) := readBoundaryName inner.rest.length inner []
                match after.rest with
                | '\x7d' :: _ => do
                    let a ← namedBoundary? unicode (String.ofList name)
                    return (.anchor a, after.next)
                | _ => none
              else some (.anchor (.wordBoundary unicode), cur)
          | [] => none
  | _ => some (.anchor (.wordBoundary unicode), cur)

/-- Reads an escape from its backslash. -/
def readEscape : Reader Escape := fun cur =>
  match cur.next.rest with
  | [] => none
  | c :: _ =>
      let cur := cur.next
      let after := cur.next
      let literal (c : Char) : Option (Escape × Cursor) := some (.literal c false, after)
      let unicode := cur.flags.unicode
      if Ascii.isDigit c then none
      else if c = 'x' then readHex 2 cur
      else if c = 'u' then readHex 4 cur
      else if c = 'U' then readHex 8 cur
      else if c = 'p' then readProperty false cur
      else if c = 'P' then readProperty true cur
      else
        match letterClass? unicode (Ascii.lower c) with
        | some set =>
            let set := if Ascii.lower c = c then set else set.complement
            if unicode || isAsciiSet set then some (.cls set true, after) else none
        | none =>
            if isEscapable c then literal c
            else if c = 'a' then literal '\x07'
            else if c = 'f' then literal '\x0c'
            else if c = 't' then literal '\t'
            else if c = 'n' then literal '\n'
            else if c = 'r' then literal '\r'
            else if c = 'v' then literal '\x0b'
            else if c = 'A' then some (.anchor .textStart, after)
            else if c = 'z' then some (.anchor .textEnd, after)
            else if c = 'b' then readBoundary after
            else if c = 'B' then some (.anchor (.noWordBoundary unicode), after)
            else if c = '<' then some (.anchor (.wordStart unicode), after)
            else if c = '>' then some (.anchor (.wordEnd unicode), after)
            else none

/-- Whether a character can be written under the flags: with the Unicode flag off,
a number of two digits above 7F is a byte and no character. -/
def isWritable (flags : Flags) (c : Char) (isByte : Bool) : Bool :=
  flags.unicode || c.toNat < 128 || !isByte

/-- The pattern of one character. -/
def ofChar? (flags : Flags) (c : Char) (isByte : Bool) : Option Pattern :=
  if isWritable flags c isByte then
    let set : Unicode.Ranges := [(c.toNat, c.toNat)]
    some (.oneOf (if flags.unicode || c.toNat < 128 then folded flags set else set))
  else none

/-- The pattern of a point. -/
def ofDot? (flags : Flags) : Option Pattern :=
  if !flags.unicode then none
  else if flags.dotAll then some (.oneOf [(0, 0x10FFFF)])
  else if flags.anyNewline then some (.oneOf [(0, 9), (11, 12), (14, 0x10FFFF)])
  else some (.oneOf [(0, 9), (11, 0x10FFFF)])

/-! ## Bracketed classes -/

/-- A set with the depth of its nesting. -/
structure Nested where
  set : Unicode.Ranges
  depth : Nat

/-- The items of a class read so far: their union, how many there are, and the
greatest depth among them. -/
structure Items where
  set : Unicode.Ranges := []
  count : Nat := 0
  depth : Nat := 0

/-- Adds an item. -/
def Items.add (items : Items) (set : Unicode.Ranges) (depth : Nat) : Items :=
  { set := items.set.union set, count := items.count + 1, depth := max items.depth depth }

/-- The items as one set: more than one item are one level deeper. -/
def Items.close (items : Items) : Nested :=
  ⟨items.set, if items.count ≤ 1 then items.depth else items.depth + 1⟩

/-- An operation on two sets. -/
inductive SetOp where
  | intersection
  | difference
  | symmetricDifference

/-- The result of an operation. -/
def SetOp.apply (op : SetOp) (a b : Unicode.Ranges) : Unicode.Ranges :=
  match op with
  | .intersection => a.intersect b
  | .difference => a.intersect b.complement
  | .symmetricDifference => (a.intersect b.complement).union (b.intersect a.complement)

/-- Completes the operation that waits for its right side. -/
def complete (flags : Flags) (pending : Option (Nested × SetOp)) (right : Nested) : Nested :=
  match pending with
  | none => right
  | some (left, op) =>
      ⟨op.apply (folded flags left.set) (folded flags right.set),
        max left.depth right.depth + 1⟩

/-- Reads the name of a class between `[:` and `:]`, from the bracket: the class and
the text after it. -/
def readNamed? (text : List Char) : Option (Unicode.Ranges × Bool × List Char) :=
  match text with
  | '[' :: ':' :: rest =>
      let (negated, rest) := match rest with
        | '^' :: rest => (true, rest)
        | _ => (false, rest)
      let name := rest.takeWhile (· ≠ ':')
      match rest.dropWhile (· ≠ ':') with
      | ':' :: ']' :: after =>
          (asciiClass? (String.ofList name)).map fun set => (set, negated, after)
      | _ => none
  | _ => none

/-- Reads one item of a class: a character or an escape. -/
def readItem : Reader Escape := fun cur =>
  match cur.rest with
  | [] => none
  | '\\' :: _ => readEscape cur
  | c :: _ => some (.literal c false, cur.next)

/-- The character of an escape that can bound a range. -/
def boundOf? (flags : Flags) : Escape → Option Char
  | .literal c isByte =>
      if isWritable flags c isByte && (flags.unicode || c.toNat < 128) then some c else none
  | _ => none

/-- The set of one item of a class. -/
def setOf? (flags : Flags) : Escape → Option Unicode.Ranges
  | .cls set _ => some set
  | e => (boundOf? flags e).map fun c => [(c.toNat, c.toNat)]

/-- Reads an item of a class or a range of characters. -/
def readRange : Reader Unicode.Ranges := fun cur => do
  let (first, cur) ← readItem cur
  let cur := cur.skip
  match cur.rest with
  | [] => none
  | c :: _ =>
      let peek := cur.peek?
      if c ≠ '-' || peek = some ']' || peek = some '-' then
        return (← setOf? cur.flags first, cur)
      else
        let cur ← cur.nextSkip?
        let (last, cur) ← readItem cur
        let low ← boundOf? cur.flags first
        let high ← boundOf? cur.flags last
        if low ≤ high then return ([(low.toNat, high.toNat)], cur) else none

/-- Reads hyphens at the beginning of a class as items. -/
def readHyphens (fuel : Nat) (items : Items) (cur : Cursor) : Option (Items × Cursor) :=
  match fuel with
  | 0 => none
  | fuel + 1 =>
      match cur.rest with
      | '-' :: _ => cur.nextSkip?.bind fun cur => readHyphens fuel (items.add [(45, 45)] 0) cur
      | _ => some (items, cur)

mutual
/-- Reads a bracketed class from its bracket. -/
def readClass (fuel : Nat) : Reader Nested := fun cur =>
  match fuel with
  | 0 => none
  | fuel + 1 => do
      let cur ← cur.nextSkip?
      let (negated, cur) ← match cur.rest with
        | '^' :: _ => cur.nextSkip?.map (true, ·)
        | _ => some (false, cur)
      let (items, cur) ← readHyphens (cur.rest.length + 1) {} cur
      let (items, cur) ← match cur.rest with
        | ']' :: _ =>
            if items.count = 0 then cur.nextSkip?.map (items.add [(93, 93)] 0, ·)
            else some (items, cur)
        | _ => some (items, cur)
      let (body, cur) ← readItems fuel none items cur
      let set ← finished? cur.flags negated body.set
      return (⟨set, body.depth + 1⟩, cur)

/-- Reads the rest of a class up to its closing bracket. -/
def readItems (fuel : Nat) (pending : Option (Nested × SetOp)) (items : Items) :
    Reader Nested := fun cur =>
  match fuel with
  | 0 => none
  | fuel + 1 =>
      let cur := cur.skip
      let operation (op : SetOp) : Option (Nested × Cursor) :=
        readItems fuel (some (complete cur.flags pending items.close, op)) {}
          cur.next.next
      match cur.rest with
      | [] => none
      | ']' :: _ => some (complete cur.flags pending items.close, cur.next)
      | '&' :: '&' :: _ => operation .intersection
      | '-' :: '-' :: _ => operation .difference
      | '~' :: '~' :: _ => operation .symmetricDifference
      | '[' :: _ =>
          match readNamed? cur.rest with
          | some (set, negated, rest) => do
              let set ← finished? cur.flags negated set
              readItems fuel pending (items.add set 0) { cur with rest }
          | none => do
              let (inner, cur) ← readClass fuel cur
              readItems fuel pending (items.add inner.set inner.depth) cur
      | _ => do
          let (set, cur) ← readRange cur
          readItems fuel pending (items.add set 0) cur
end

/-! ## Groups, repetitions and alternatives -/

/-- An element of a sequence; flags stand in the sequence but cannot be repeated. -/
structure Element where
  pattern : Pattern
  depth : Nat
  isFlags : Bool := false

/-- The sequence of elements given last first. -/
def joinSequence (reversed : List Element) : Element :=
  match reversed with
  | [] => ⟨.empty, 0, false⟩
  | [e] => { e with isFlags := false }
  | e :: rest =>
      let joined := rest.foldl (fun p x => .seq x.pattern p) e.pattern
      ⟨joined, (reversed.map (·.depth)).foldl max 0 + 1, false⟩

/-- The one class that alternatives are, if each of them is a character, or each a class. -/
def classOfAlternatives? (alternatives : List Element) : Option Unicode.Ranges := do
  let sets ← alternatives.mapM fun e =>
    match e.pattern with
    | .oneOf set => some set
    | _ => none
  if sets.all isSingle || sets.all (!isSingle ·) then
    some (sets.foldl Unicode.Ranges.union [])
  else none

/-- The alternatives given last first. -/
def joinAlternatives (reversed : List Element) : Element :=
  match reversed with
  | [] => ⟨.empty, 0, false⟩
  | [e] => e
  | e :: rest =>
      let joined := match classOfAlternatives? reversed with
        | some set => .oneOf set
        | none => rest.foldl (fun p x => .alt x.pattern p) e.pattern
      ⟨joined, (reversed.map (·.depth)).foldl max 0 + 1, false⟩

/-- An open group: the elements and alternatives before it, last first, and the
flags that hold after it. -/
structure Frame where
  elements : List Element
  alternatives : List Element
  flags : Flags
  captures : Bool

/-- Sets a flag by its letter. -/
def Flags.set? (flags : Flags) (letter : Char) (on : Bool) : Option Flags :=
  match letter with
  | 'i' => some { flags with ignoreCase := on }
  | 'm' => some { flags with multiLine := on }
  | 's' => some { flags with dotAll := on }
  | 'R' => some { flags with anyNewline := on }
  | 'u' => some { flags with unicode := on }
  | 'x' => some { flags with ignoreSpace := on }
  | 'U' => some flags
  | _ => none

/-- Reads flags up to `:` or `)`: no flag twice, one hyphen at most, and not at the
end.  Gives the flags, how many there are, and the rest from the closing mark. -/
def readFlags (flags : Flags) (on : Bool) (seen : List Char) :
    List Char → Option (Flags × Nat × List Char)
  | [] => none
  | c :: rest =>
      if c = ':' || c = ')' then
        if seen.head? = some '-' then none else some (flags, seen.length, c :: rest)
      else if seen.contains c then none
      else if c = '-' then readFlags flags false (c :: seen) rest
      else (flags.set? c on).bind fun flags => readFlags flags on (c :: seen) rest

/-- Whether a character may stand in the name of a group. -/
def isNameChar (first : Bool) (c : Char) : Bool :=
  let isIn (set? : Option Unicode.Ranges) : Bool := (set?.getD []).contains c.toNat
  c = '_' || isIn (Unicode.property? "alphabetic") ||
    (!first && (c = '.' || c = '[' || c = ']' || isIn (Unicode.category? "n")))

/-- Reads the name of a group up to `>`. -/
def readName? (text : List Char) : Option (String × List Char) :=
  let name := text.takeWhile (· ≠ '>')
  match name, text.dropWhile (· ≠ '>') with
  | first :: more, '>' :: rest =>
      if isNameChar true first && more.all (isNameChar false) then
        some (String.ofList name, rest)
      else none
  | _, _ => none

/-- What an opening parenthesis begins. -/
inductive Opening where
  /-- Flags for the rest of the group around them. -/
  | flags (flags : Flags)
  /-- A group with the flags that hold inside it. -/
  | group (flags : Flags) (captures : Bool)

/-- Reads an opening parenthesis and what follows it. -/
def readOpening : Reader Opening := fun cur =>
  let cur := cur.next.skip
  let named (rest : List Char) : Option (Opening × Cursor) := do
    let (name, rest) ← readName? rest
    if cur.names.contains name then none
    else return (.group cur.flags true, { cur with rest, names := name :: cur.names })
  match cur.rest with
  | '?' :: '=' :: _ => none
  | '?' :: '!' :: _ => none
  | '?' :: '<' :: '=' :: _ => none
  | '?' :: '<' :: '!' :: _ => none
  | '?' :: 'P' :: '<' :: rest => named rest
  | '?' :: '<' :: rest => named rest
  | '?' :: rest => do
      let (flags, count, rest) ← readFlags cur.flags true [] rest
      match rest with
      | ')' :: rest =>
          if count = 0 then none else return (.flags flags, { cur with rest })
      | _ :: rest => return (.group flags false, { cur with rest })
      | [] => none
  | _ => some (.group cur.flags true, cur)

/-- Reads a count inside braces: blanks may stand around its digits.  The digits are
`none` where there are none; a count of more than 32 bits is refused. -/
def readCount (cur : Cursor) : Option (Option Nat × Cursor) :=
  let cur := { cur with rest := cur.rest.dropWhile Blank.isBlank }
  let (digits, cur) := readDigits cur.rest.length cur []
  let cur := { cur with rest := cur.rest.dropWhile Blank.isBlank }
  if digits.isEmpty then some (none, cur)
  else
    let n := Ascii.decimal digits
    if n < Nat.pow 2 32 then some (some n, cur) else none
where
  /-- Reads digits, with what the flags ignore between them. -/
  readDigits (fuel : Nat) (cur : Cursor) (digits : List Char) : List Char × Cursor :=
    match fuel with
    | 0 => (digits, cur)
    | fuel + 1 =>
        match cur.rest with
        | c :: _ =>
            if Ascii.isDigit c then readDigits fuel cur.next.skip (digits ++ [c])
            else (digits, cur)
        | [] => (digits, cur)

/-- Reads the bounds of a repetition from the opening brace up to the closing one. -/
def readBounds : Reader (Nat × Option Nat) := fun cur => do
  let cur ← cur.nextSkip?
  let (least?, cur) ← readCount cur
  let least ← least?
  let (most, cur) ← match cur.rest with
    | [] => none
    | ',' :: _ => do
        let cur ← cur.nextSkip?
        match cur.rest with
        | '\x7d' :: _ => pure (none, cur)
        | _ =>
            let (most?, cur) ← readCount cur
            let most ← most?
            if least ≤ most then pure (some most, cur) else none
    | _ => some (some least, cur)
  match cur.rest with
  | '\x7d' :: _ => return ((least, most), cur.next.skip)
  | _ => none

/-- The elements with the last one repeated. -/
def repeatLast? (elements : List Element) (least : Nat) (most : Option Nat) :
    Option (List Element) :=
  match elements with
  | e :: rest =>
      if e.isFlags then none
      else some (⟨.repeated e.pattern least most, e.depth + 1, false⟩ :: rest)
  | [] => none

/-- The text after the mark of a reluctant repetition. -/
def dropReluctant (text : List Char) : List Char :=
  match text with
  | '?' :: rest => rest
  | _ => text

/-- Reads an element that is neither a group nor a repetition. -/
def readElement : Reader Element := fun cur =>
  let flags := cur.flags
  let anchor (a : Anchor) : Option (Element × Cursor) := some (⟨.anchor a, 0, false⟩, cur.next)
  match cur.rest with
  | [] => none
  | '[' :: _ => do
      let (nested, cur) ← readClass (2 * cur.rest.length + 2) cur
      return (⟨.oneOf nested.set, nested.depth, false⟩, cur)
  | '.' :: _ => (ofDot? flags).map fun p => (⟨p, 0, false⟩, cur.next)
  | '^' :: _ =>
      anchor (if !flags.multiLine then .textStart
        else if flags.anyNewline then .anyLineStart else .lineStart)
  | '$' :: _ =>
      anchor (if !flags.multiLine then .textEnd
        else if flags.anyNewline then .anyLineEnd else .lineEnd)
  | '\\' :: _ => do
      let (escape, cur) ← readEscape cur
      let p ← match escape with
        | .literal c isByte => ofChar? flags c isByte
        | .cls set _ => some (.oneOf set)
        | .anchor a => some (.anchor a)
      return (⟨p, 0, false⟩, cur)
  | c :: _ => (ofChar? flags c false).map fun p => (⟨p, 0, false⟩, cur.next)

/-- Reads the rest of a pattern.  Elements, alternatives and open groups before it
are given last first. -/
def readAll (fuel : Nat) (elements alternatives : List Element) (groups : List Frame)
    (cur : Cursor) : Option Element :=
  match fuel with
  | 0 => none
  | fuel + 1 =>
      let cur := cur.skip
      let repetition (least : Nat) (most : Option Nat) : Option Element := do
        let elements ← repeatLast? elements least most
        readAll fuel elements alternatives groups
          { cur with rest := dropReluctant (cur.rest.drop 1) }
      match cur.rest with
      | [] =>
          if groups.isEmpty then some (joinAlternatives (joinSequence elements :: alternatives))
          else none
      | '(' :: _ => do
          let (opening, after) ← readOpening cur
          match opening with
          | .flags flags =>
              readAll fuel (⟨.empty, 0, true⟩ :: elements) alternatives groups
                { after with flags }
          | .group flags captures =>
              readAll fuel [] [] (⟨elements, alternatives, cur.flags, captures⟩ :: groups)
                { after with flags }
      | ')' :: rest =>
          match groups with
          | [] => none
          | frame :: groups =>
              let inner := joinAlternatives (joinSequence elements :: alternatives)
              let p := if frame.captures then .group inner.pattern else inner.pattern
              readAll fuel (⟨p, inner.depth + 1, false⟩ :: frame.elements) frame.alternatives
                groups { cur with rest, flags := frame.flags }
      | '|' :: rest =>
          readAll fuel [] (joinSequence elements :: alternatives) groups { cur with rest }
      | '?' :: _ => repetition 0 (some 1)
      | '*' :: _ => repetition 0 none
      | '+' :: _ => repetition 1 none
      | '\x7b' :: _ => do
          let ((least, most), after) ← readBounds cur
          let elements ← repeatLast? elements least most
          readAll fuel elements alternatives groups
            { after with rest := dropReluctant after.rest }
      | _ => do
          let (element, cur) ← readElement cur
          readAll fuel (element :: elements) alternatives groups cur

/-- How deep the parts of a pattern may be nested. -/
def depthLimit : Nat := 250

/-- Reads a pattern; `none` if it is malformed, nested too deep or too large. -/
def ofText? (text : String) : Option Pattern := do
  let chars := text.toList
  let element ← readAll (chars.length + 1) [] [] [] ⟨chars, {}, []⟩
  if element.depth ≤ depthLimit && element.pattern.fits then some element.pattern else none

end Pattern
end ApiContract
