import ApiContract.Domain.Encoding
import ApiContract.Format.Address
import ApiContract.Text.Percent

/-!
# Absolute URLs

A text is an absolute URL if it has a scheme and its authority, where there is one,
names a host that can be read.  Paths, queries and fragments are never refused.
Blanks and control characters around the text are ignored, tabs and line breaks
everywhere.
-/

namespace ApiContract
namespace Url

/-- The kinds of schemes: `special` ones need a host, `file` may have one, and the
others treat the host as plain text. -/
inductive SchemeKind where
  | special
  | file
  | other
  deriving DecidableEq

/-- The kind of a scheme in lower case. -/
def SchemeKind.of (scheme : String) : SchemeKind :=
  if ["http", "https", "ws", "wss", "ftp"].contains scheme then .special
  else if scheme = "file" then .file
  else .other

/-- The text without the characters that a URL ignores. -/
def significant (text : List Char) : List Char :=
  let isControl (c : Char) : Bool := c.toNat ≤ 32
  let trimmed := ((text.dropWhile isControl).reverse.dropWhile isControl).reverse
  trimmed.filter fun c => c ≠ '\t' && c ≠ '\n' && c ≠ '\r'

/-- The scheme of a text in lower case, and what follows its colon. -/
def scheme? (text : List Char) : Option (String × List Char) :=
  let isPart (c : Char) : Bool := Ascii.isAlphanumeric c || c = '+' || c = '-' || c = '.'
  match text with
  | first :: _ =>
      match text.dropWhile isPart with
      | ':' :: rest =>
          if Ascii.isLetter first then
            some (Ascii.lowercase (String.ofList (text.takeWhile isPart)), rest)
          else none
      | _ => none
  | [] => none

/-- Whether a character ends an authority. -/
def endsAuthority (kind : SchemeKind) (c : Char) : Bool :=
  c = '/' || c = '?' || c = '#' || (kind ≠ .other && c = '\\')

/-- The user before the last `@` of an authority, where there is an `@`, and the rest
of the authority. -/
def splitUser (authority : List Char) : Option (List Char) × List Char :=
  let reversed := authority.reverse
  match reversed.dropWhile (· ≠ '@') with
  | [] => (none, authority)
  | _ :: user => (some user.reverse, (reversed.takeWhile (· ≠ '@')).reverse)

/-- The host of an authority without user: up to a colon outside brackets. -/
def hostOf (inBrackets : Bool) : List Char → List Char
  | [] => []
  | c :: rest =>
      if c = ':' && !inBrackets then []
      else
        c :: hostOf (if c = '[' then true else if c = ']' then false else inBrackets) rest

/-- Whether what follows a host is nothing, or a colon and a number of at most 16 bits
that may be left out. -/
def isHostSuffix (text : List Char) : Bool :=
  match text with
  | [] => true
  | _ :: number =>
      let digits := number.takeWhile Ascii.isDigit
      let n := Ascii.decimal digits
      let rest := number.dropWhile Ascii.isDigit
      n ≤ 65535 && (rest.isEmpty || rest.head? = some '\\')

/-- The number that a part of an IPv4 address writes: decimal, octal after `0`, or
hexadecimal after `0x`.  `none` if it writes none. -/
def addressNumber? (text : List Char) : Option Nat :=
  let value (base : Nat) (digits : List Char) : Option Nat :=
    digits.foldlM (fun n c =>
      (Ascii.hexValue? c).bind fun d => if d < base then some (n * base + d) else none) 0
  match text with
  | [] => none
  | '0' :: 'x' :: rest => value 16 rest
  | '0' :: 'X' :: rest => value 16 rest
  | '0' :: c :: rest => value 8 (c :: rest)
  | _ => value 10 text

/-- Whether the last part of a host is a number, so that the host must be an IPv4
address. -/
def endsInNumber (host : List Char) : Bool :=
  let parts := (host.splitOn '.').reverse
  let last := match parts with
    | [] :: last :: _ => last
    | [] :: [] => []
    | last :: _ => last
    | [] => []
  !last.isEmpty && (last.all Ascii.isDigit || (addressNumber? last).isSome)

/-- Whether a host is an IPv4 address of up to four numbers, of which the last one
fills the bytes that are left. -/
def isAddress (host : List Char) : Bool :=
  let parts := host.splitOn '.'
  let parts := if parts.getLast? = some [] then parts.dropLast else parts
  match parts.mapM addressNumber? with
  | none => false
  | some numbers =>
      let last := numbers.getLast?.getD 0
      numbers.length ≤ 4 && numbers.dropLast.all (· < 256) &&
        last < Nat.pow 256 (5 - numbers.length)

/-- The characters of ASCII that no domain of a URL holds. -/
def isForbidden (n : Nat) : Bool :=
  n ≤ 32 || n = 127 || (n < 128 && "%#/:<>?@[\\]^|".toList.contains (Char.ofNat n))

/-- Whether a text is an IPv6 address in brackets. -/
def isBracketed (host : List Char) : Bool :=
  match host with
  | '[' :: rest => rest.getLast? = some ']' && Address.isV6 rest.dropLast
  | _ => false

/-- Whether a host with a special scheme can be read. -/
def isHost (host : List Char) : Bool :=
  if host.head? = some '[' then isBracketed host
  else
    let ascii? := do
      let decoded ← Utf8.decode? (Percent.decode (Utf8.encode host))
      Domain.toAscii? isForbidden decoded
    match ascii? with
    | none => false
    | some domain => !domain.isEmpty && (!endsInNumber domain || isAddress domain)

/-- Whether a host of another scheme can be read. -/
def isOpaqueHost (host : List Char) : Bool :=
  if host.head? = some '[' then isBracketed host
  else !host.any fun c => "\x00\t\n\r #/:<>?@[\\]^|".toList.contains c

/-- Whether an authority can be read.  Of a special scheme it needs a host.  Of another
scheme it may lack the host if it lacks the number after it and the user as well; an
`@` alone then stands at the end of the text. -/
def isAuthority (kind : SchemeKind) (authority : List Char) (isLast : Bool) : Bool :=
  let (user, rest) := splitUser authority
  let host := hostOf false rest
  let suffix := rest.drop host.length
  match kind with
  | .other =>
      let mayLackHost := match user with
        | none => suffix.isEmpty
        | some [] => suffix.isEmpty && isLast
        | some user => suffix.isEmpty && user = [':']
      isOpaqueHost host && isHostSuffix suffix && (!host.isEmpty || mayLackHost)
  | _ => !host.isEmpty && isHost host && isHostSuffix suffix

/-- Whether a text is a drive letter. -/
def isDrive (text : List Char) : Bool :=
  match text with
  | [letter, mark] => Ascii.isLetter letter && (mark = ':' || mark = '|')
  | _ => false

/-- Whether what follows the scheme can be read. -/
def isReadable (kind : SchemeKind) (rest : List Char) : Bool :=
  match kind with
  | .special =>
      let rest := rest.dropWhile fun c => c = '/' || c = '\\'
      isAuthority kind (rest.takeWhile fun c => !endsAuthority kind c) false
  | .file =>
      let isSlash (c : Char) : Bool := c = '/' || c = '\\'
      match rest with
      | a :: b :: rest =>
          if isSlash a && isSlash b then
            let host := rest.takeWhile fun c => !endsAuthority kind c
            host.isEmpty || isDrive host || isHost host
          else true
      | _ => true
  | .other =>
      match rest with
      | '/' :: '/' :: rest =>
          let authority := rest.takeWhile fun c => !endsAuthority kind c
          isAuthority kind authority (authority.length = rest.length)
      | _ => true

/-- Whether a text is an absolute URL. -/
def isUri (text : List Char) : Bool :=
  match scheme? (significant text) with
  | some (scheme, rest) => isReadable (.of scheme) rest
  | none => false

/-- Whether a text is an absolute URL of the web or of file transfer. -/
def isUrl (text : List Char) : Bool :=
  match scheme? (significant text) with
  | some (scheme, rest) =>
      ["http", "https", "ftp"].contains scheme && isReadable .special rest
  | none => false

end Url
end ApiContract
