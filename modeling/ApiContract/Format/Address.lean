import ApiContract.Text.Ascii

/-!
# Internet addresses

An IPv4 address is four decimal numbers below 256 without leading zeros.  An
IPv6 address is eight groups of up to four hexadecimal digits, of which one run
of at least one may be left out as `::`, and the last two may be an IPv4 address.
-/

namespace ApiContract
namespace Address

/-- Whether a text is a decimal number below 256 without leading zeros. -/
def isOctet (text : List Char) : Bool :=
  !text.isEmpty && text.length ≤ 3 && text.all Ascii.isDigit &&
    (text.length = 1 || text.head? ≠ some '0') && Ascii.decimal text < 256

/-- Whether a text is an IPv4 address. -/
def isV4 (text : List Char) : Bool :=
  let parts := text.splitOn '.'
  parts.length = 4 && parts.all isOctet

/-- Whether a text is a group of an IPv6 address. -/
def isGroup (text : List Char) : Bool :=
  !text.isEmpty && text.length ≤ 4 && text.all fun c => (Ascii.hexValue? c).isSome

/-- How many groups the parts between colons stand for, where the last part may be
an IPv4 address. -/
def groupCount? : List (List Char) → Option Nat
  | [] => some 0
  | [last] => if isGroup last then some 1 else if isV4 last then some 2 else none
  | part :: rest => if isGroup part then (groupCount? rest).map (· + 1) else none

/-- The texts before and after the first `::`. -/
def splitGap? : List Char → Option (List Char × List Char)
  | [] => none
  | ':' :: ':' :: rest => some ([], rest)
  | c :: rest => (splitGap? rest).map fun parts => (c :: parts.1, parts.2)

/-- How many groups a text with colons between them stands for. -/
def countOf? (text : List Char) : Option Nat :=
  if text.isEmpty then some 0 else groupCount? (text.splitOn ':')

/-- Whether a text is an IPv6 address.  An IPv4 address ends it. -/
def isV6 (text : List Char) : Bool :=
  match splitGap? text with
  | none => countOf? text = some 8
  | some (before, after) =>
      !before.contains '.' &&
        match countOf? before, countOf? after with
        | some a, some b => a + b ≤ 7
        | _, _ => false

end Address
end ApiContract
