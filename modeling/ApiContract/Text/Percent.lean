import ApiContract.Text.Ascii
import ApiContract.Text.Utf8

/-!
# Percent encoding

A byte may be written as `%` and two hexadecimal digits.  What does not have this
form stands for itself.
-/

namespace ApiContract
namespace Percent

/-- The value of a byte that is a hexadecimal digit. -/
def hexByte? (b : UInt8) : Option Nat :=
  Ascii.hexValue? (Char.ofNat b.toNat)

/-- The byte that two hexadecimal digits write. -/
def pair? (a b : UInt8) : Option UInt8 :=
  match hexByte? a, hexByte? b with
  | some high, some low => some (high * 16 + low).toUInt8
  | _, _ => none

/-- The bytes that percent-encoded bytes stand for. -/
def decode : List UInt8 → List UInt8
  | 37 :: a :: b :: rest =>
      match pair? a b with
      | some byte => byte :: decode rest
      | none => 37 :: decode (a :: b :: rest)
  | b :: rest => b :: decode rest
  | [] => []

/-- The text that a percent-encoded text stands for; malformed pieces become
U+FFFD. -/
def decodeText (text : List Char) : List Char :=
  Utf8.decodeLossy (decode (Utf8.encode text))

end Percent
end ApiContract
