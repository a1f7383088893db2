import ApiContract.Binary64.Shortest
import ApiContract.Text.Ascii

/-!
# Reading decimal text as a binary64 number

The text is an optional sign and either digits with an optional point and
exponent, or one of the words for infinity and not-a-number.  The value is the
binary64 number nearest to the decimal one.
-/

namespace ApiContract
namespace Binary64

/-- The number nearest to `digits * 10 ^ exponent`.  Exponents far outside the
range of binary64 are decided without computing the power. -/
def ofDecimal (negative : Bool) (digits : Nat) (exponent : Int) : Binary64 :=
  if digits = 0 then zero negative
  else
    let place := exponent + ((Nat.toDigits 10 digits).length : Int)
    if 400 < place then .infinite negative
    else if place < -400 then zero negative
    else round negative ((digits : Rat) * tenPow exponent)

/-- Reads the exponent of a decimal: a sign and at least one digit. -/
def readExponent? (text : List Char) : Option Int :=
  let (negative, digits) := match text with
    | '-' :: rest => (true, rest)
    | '+' :: rest => (false, rest)
    | _ => (false, text)
  if digits.isEmpty || !digits.all Ascii.isDigit then none
  else
    let n : Int := Ascii.decimal digits
    some (if negative then -n else n)

/-- Reads an unsigned decimal: digits, an optional point with digits, an
optional exponent.  One digit at least stands before the exponent. -/
def readUnsigned? (negative : Bool) (text : List Char) : Option Binary64 :=
  let whole := text.takeWhile Ascii.isDigit
  let rest := text.dropWhile Ascii.isDigit
  let (fraction, rest) := match rest with
    | '.' :: more => (more.takeWhile Ascii.isDigit, more.dropWhile Ascii.isDigit)
    | _ => ([], rest)
  if whole.isEmpty && fraction.isEmpty then none
  else
    let build (exponent : Int) : Binary64 :=
      ofDecimal negative (Ascii.decimal (whole ++ fraction)) (exponent - fraction.length)
    match rest with
    | [] => some (build 0)
    | c :: more => if c = 'e' || c = 'E' then (readExponent? more).map build else none

/-- Reads decimal text or one of the words `inf`, `infinity` and `nan`, in any
case, after an optional sign. -/
def ofText? (text : List Char) : Option Binary64 :=
  let (negative, rest) := match text with
    | '-' :: rest => (true, rest)
    | '+' :: rest => (false, rest)
    | _ => (false, text)
  let word := String.ofList (rest.map Char.toLower)
  if word = "inf" || word = "infinity" then some (.infinite negative)
  else if word = "nan" then some .nan
  else readUnsigned? negative rest

end Binary64
end ApiContract
