/-!
# Binary64 numbers

A binary64 number is a sign with a mantissa and a power of two, an infinity, or
not a number.  Every operation of the library computes its result exactly, as a
rational, and rounds it once with `Binary64.round`.
-/

namespace ApiContract

/-- The mantissas and exponents of finite binary64 numbers: 53 bits, of which
the highest is set unless the exponent is the least one. -/
def Binary64.Canonical (mantissa : Nat) (exponent : Int) : Prop :=
  mantissa < Nat.pow 2 53 ∧ -1074 ≤ exponent ∧ exponent ≤ 971 ∧
    (Nat.pow 2 52 ≤ mantissa ∨ exponent = -1074)

instance (mantissa : Nat) (exponent : Int) :
    Decidable (Binary64.Canonical mantissa exponent) := by
  unfold Binary64.Canonical
  infer_instance

/-- A binary64 number.  A finite one has the value `± mantissa * 2 ^ exponent`,
and its fields are determined by its value and its sign. -/
inductive Binary64 where
  | finite (negative : Bool) (mantissa : Nat) (exponent : Int)
      (canonical : Binary64.Canonical mantissa exponent)
  | infinite (negative : Bool)
  | nan
  deriving DecidableEq

namespace Binary64

/-- Zero with the given sign. -/
def zero (negative : Bool) : Binary64 :=
  .finite negative 0 (-1074) (by decide)

instance : Inhabited Binary64 := ⟨zero false⟩

/-- The nearest whole number to a nonnegative rational, ties to the even one. -/
def nearestEven (x : Rat) : Nat :=
  let num := x.num.toNat
  let q := num / x.den
  let twice := 2 * (num % x.den)
  if twice < x.den then q
  else if x.den < twice then q + 1
  else q + q % 2

/-- Two to a whole power. -/
def twoPow : Int → Rat
  | .ofNat n => (Nat.pow 2 n : Nat)
  | .negSucc n => mkRat 1 (Nat.pow 2 (n + 1))

/-- The finite number with these parts, or infinity where no exponent is large
enough. -/
def ofParts (negative : Bool) (mantissa : Nat) (exponent : Int) : Binary64 :=
  if h : Canonical mantissa exponent then .finite negative mantissa exponent h
  else .infinite negative

/-- The exponent of the binary64 numbers around a positive rational. -/
def scale (x : Rat) : Int :=
  let guess : Int := (x.num.toNat.log2 : Int) - (x.den.log2 : Int) - 52
  let exponent := if x < (Nat.pow 2 52 : Nat) * twoPow guess then guess - 1 else guess
  max exponent (-1074)

/-- The binary64 number nearest to a nonnegative rational, under the given
sign: ties go to the even mantissa, and what is too large becomes infinite. -/
def round (negative : Bool) (x : Rat) : Binary64 :=
  if x.num = 0 then zero negative
  else
    let exponent := scale x
    let mantissa := nearestEven (x * twoPow (-exponent))
    if mantissa = Nat.pow 2 53 then ofParts negative (Nat.pow 2 52) (exponent + 1)
    else ofParts negative mantissa exponent

/-- The binary64 number nearest to a rational; zero is positive. -/
def ofRat (x : Rat) : Binary64 :=
  round (x.num < 0) (if x.num < 0 then -x else x)

/-- The binary64 number nearest to an integer. -/
def ofInt (n : Int) : Binary64 :=
  ofRat n

/-- The exact value of a finite number. -/
def toRat? : Binary64 → Option Rat
  | .finite negative mantissa exponent _ =>
      let x := (mantissa : Rat) * twoPow exponent
      some (if negative then -x else x)
  | _ => none

/-- Whether the number is neither an infinity nor not-a-number. -/
def isFinite : Binary64 → Bool
  | .finite .. => true
  | _ => false

/-- Whether the sign is negative; not-a-number has none. -/
def isNegative : Binary64 → Bool
  | .finite negative _ _ _ => negative
  | .infinite negative => negative
  | .nan => false

end Binary64
end ApiContract
