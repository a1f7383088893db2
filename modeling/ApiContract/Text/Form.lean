import ApiContract.Text.Percent
import ApiContract.Text.Split

/-!
# Form-encoded text

Pairs are separated by ampersands, a key and its value by the first equals sign.  A plus
is a space, and a percent sign with two digits is a byte.
-/

namespace ApiContract
namespace Form

/-- The text that form-encoded text stands for. -/
def decode (text : List Char) : String :=
  String.ofList (Percent.decodeText (text.map fun c => if c = '+' then ' ' else c))

/-- The pairs of a form-encoded text.  Empty parts are none. -/
def pairs (text : String) : List (String × String) :=
  ((text.toList.splitOn '&').filter fun part => !part.isEmpty).map fun part =>
    let (key, value) := splitFirst '=' part
    (decode key, decode value)

end Form
end ApiContract
