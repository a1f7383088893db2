import ApiContract.Binary64.Arithmetic

/-!
# Shortest decimal text of a binary64 number

The digits written are the fewest that read back as the same number, and of
those the nearest to it.  `renderMagnitude` places them.
-/

namespace ApiContract
namespace Binary64

/-- A decimal number `digits * 10 ^ exponent`. -/
structure Decimal where
  digits : Nat
  exponent : Int
  deriving DecidableEq, Repr

/-- Ten to a whole power. -/
def tenPow : Int → Rat
  | .ofNat n => (Nat.pow 10 n : Nat)
  | .negSucc n => mkRat 1 (Nat.pow 10 (n + 1))

/-- The rationals that round to a positive finite number: the ends, and whether
they belong to the interval. -/
structure Interval where
  lower : Rat
  upper : Rat
  closed : Bool

/-- The rounding interval of the number `mantissa * 2 ^ exponent`. -/
def interval (mantissa : Nat) (exponent : Int) : Interval :=
  let unit := twoPow exponent
  let below := if mantissa = Nat.pow 2 52 ∧ -1074 < exponent then unit / 4 else unit / 2
  { lower := mantissa * unit - below
    upper := mantissa * unit + unit / 2
    closed := mantissa % 2 = 0 }

/-- Whether a rational lies in the interval. -/
def Interval.contains (i : Interval) (x : Rat) : Bool :=
  (i.lower < x && x < i.upper) || (i.closed && (x = i.lower || x = i.upper))

/-- The multiple of `10 ^ place` nearest to `x` inside the interval, where one
of the two around `x` lies inside. -/
def onGrid? (i : Interval) (x : Rat) (place : Int) : Option Decimal :=
  let scaled := x * tenPow (-place)
  let floor := scaled.num.toNat / scaled.den
  let inside (n : Nat) : Bool := i.contains (n * tenPow place)
  let low := inside floor
  let high := inside (floor + 1)
  let nearLow : Bool := 2 * (scaled - floor) < 1 || (2 * (scaled - floor) = 1 && floor % 2 = 0)
  if low && (nearLow || !high) then some ⟨floor, place⟩
  else if high then some ⟨floor + 1, place⟩
  else none

/-- The place of the leading digit of a positive rational. -/
def leadingPlace (x : Rat) : Int :=
  let guess : Int := ((x.num.toNat.log2 : Int) - (x.den.log2 : Int)) * 30103 / 100000
  let up := if tenPow (guess + 1) ≤ x then guess + 1 else guess
  if x < tenPow up then up - 1 else up

/-- The first grid of `place`, `place - 1`, … that holds a number of the
interval. -/
def searchGrid (i : Interval) (x : Rat) (place : Int) : Nat → Decimal
  | 0 => ⟨0, 0⟩
  | fuel + 1 =>
      match onGrid? i x place with
      | some d => d
      | none => searchGrid i x (place - 1) fuel

/-- The shortest decimal that reads back as the number `mantissa * 2 ^ exponent`:
at most 17 digits are needed. -/
def shortest (mantissa : Nat) (exponent : Int) : Decimal :=
  if mantissa = 0 then ⟨0, 0⟩
  else
    let x := magnitude mantissa exponent
    searchGrid (interval mantissa exponent) x (leadingPlace x + 1) 20

/-- The digits of a positive decimal without trailing zeros, and the exponent
of the first one. -/
def Decimal.scientific (d : Decimal) : List Char × Int :=
  let all := Nat.toDigits 10 d.digits
  let kept := (all.reverse.dropWhile (· = '0')).reverse
  (if kept.isEmpty then ['0'] else kept, d.exponent + (all.length : Int) - 1)

/-- Text of a finite number in which it is always visible that it is not an
integer: positional from `10 ^ -5` up to below `10 ^ 16`, scientific outside,
with a signed exponent. -/
def renderMagnitude (mantissa : Nat) (exponent : Int) : List Char :=
  if mantissa = 0 then ['0', '.', '0']
  else
    let (digits, place) := (shortest mantissa exponent).scientific
    if -5 ≤ place ∧ place ≤ 15 then
      if place < 0 then
        '0' :: '.' :: (List.replicate ((-place).toNat - 1) '0' ++ digits)
      else
        let whole := place.toNat + 1
        let padded := digits ++ List.replicate (whole - digits.length) '0'
        let fraction := padded.drop whole
        padded.take whole ++ '.' :: (if fraction.isEmpty then ['0'] else fraction)
    else
      let point := if digits.length = 1 then digits
        else digits.take 1 ++ '.' :: digits.drop 1
      let sign := if place < 0 then '-' else '+'
      point ++ 'e' :: sign :: Nat.toDigits 10 place.natAbs

/-- Text of a finite number; infinities and not-a-number have none. -/
def render? : Binary64 → Option String
  | .finite negative mantissa exponent _ =>
      some (String.ofList ((if negative then ['-'] else []) ++ renderMagnitude mantissa exponent))
  | _ => none

end Binary64
end ApiContract
