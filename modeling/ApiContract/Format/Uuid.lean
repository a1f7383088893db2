import ApiContract.Text.Ascii

/-!
# UUIDs

A UUID is 32 hexadecimal digits in groups of 8, 4, 4, 4 and 12, with hyphens
between them.
-/

namespace ApiContract
namespace Uuid

/-- Whether a text is groups of hexadecimal digits of the given lengths, with
hyphens between them. -/
def isGrouped : (lengths : List Nat) → List Char → Bool
  | [], text => text.isEmpty
  | [last], text => text.length = last && text.all fun c => (Ascii.hexValue? c).isSome
  | length :: lengths, text =>
      (text.take length).length = length &&
        (text.take length).all (fun c => (Ascii.hexValue? c).isSome) &&
        match text.drop length with
        | '-' :: rest => isGrouped lengths rest
        | _ => false

/-- Whether a text is a UUID. -/
def isUuid (text : List Char) : Bool :=
  isGrouped [8, 4, 4, 4, 12] text

end Uuid
end ApiContract
