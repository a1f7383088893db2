import ApiContract.Text.Ascii
import ApiContract.Text.Utf8

/-!
# Host names

A host name is a list of labels of at most 253 bytes, whose last label is made of
at least two letters.
-/

namespace ApiContract
namespace Hostname

/-- Whether a text is a label: at most 63 letters, digits and inner hyphens. -/
def isLabel (label : List Char) : Bool :=
  !label.isEmpty && label.length ≤ 63 && label.head? ≠ some '-' &&
    label.getLast? ≠ some '-' && label.all fun c => Ascii.isAlphanumeric c || c = '-'

/-- Whether a text is a host name. -/
def isHostname (text : List Char) : Bool :=
  let labels := text.splitOn '.'
  !text.isEmpty && Utf8.size text ≤ 253 && labels.all isLabel &&
    labels.getLast?.any fun top => 2 ≤ top.length && top.all Ascii.isLetter

end Hostname
end ApiContract
