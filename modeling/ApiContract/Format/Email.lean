import ApiContract.Domain.Encoding
import ApiContract.Format.Address
import ApiContract.Format.Hostname

/-!
# Mail addresses

A mail address is a user and a domain around the last `@`.  The domain is a list of
labels, possibly internationalized, or ends with an Internet address in brackets.
-/

namespace ApiContract
namespace Email

/-- Whether a character may stand in the user part.  Case is ignored as Unicode
ignores it, so the long s and the Kelvin sign count as letters. -/
def isUserChar (c : Char) : Bool :=
  Ascii.isAlphanumeric c || ".!#$%&'*+/=?^_\x60\x7b|\x7d~-".toList.contains c ||
    c = '\u017F' || c = '\u212A'

/-- The text between the last opening bracket and a bracket at the end, where only
digits, colons and points stand between them. -/
def bracketed? (text : List Char) : Option (List Char) :=
  match text.reverse with
  | ']' :: rest =>
      let isInner (c : Char) : Bool := (Ascii.hexValue? c).isSome || c = ':' || c = '.'
      let inner := rest.takeWhile isInner
      match rest.dropWhile isInner with
      | '[' :: _ => if inner.isEmpty then none else some inner.reverse
      | _ => none
  | _ => none

/-- Whether a text is a domain in ASCII. -/
def isDomain (text : List Char) : Bool :=
  (text.splitOn '.').all Hostname.isLabel ||
    match bracketed? text with
    | some address => Address.isV4 address || Address.isV6 address
    | none => false

/-- Whether a text is a mail address. -/
def isEmail (text : List Char) : Bool :=
  let reversed := text.reverse
  let domain := (reversed.takeWhile (· ≠ '@')).reverse
  match reversed.dropWhile (· ≠ '@') with
  | [] => false
  | _ :: user =>
      !user.isEmpty && user.length ≤ 64 && domain.length ≤ 255 && user.all isUserChar &&
        (isDomain domain ||
          match Domain.toAscii? (fun _ => false) domain with
          | some ascii => isDomain ascii
          | none => false)

end Email
end ApiContract
