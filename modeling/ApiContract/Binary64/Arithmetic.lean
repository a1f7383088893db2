import ApiContract.Binary64.Basic

/-!
# Arithmetic and comparison of binary64 numbers

Each operation is exact on the rational values and rounds once.  Comparisons
with not-a-number are false.
-/

namespace ApiContract
namespace Binary64

/-- The opposite number. -/
def neg : Binary64 → Binary64
  | .finite negative mantissa exponent h => .finite (!negative) mantissa exponent h
  | .infinite negative => .infinite (!negative)
  | .nan => .nan

/-- The number without its sign. -/
def abs : Binary64 → Binary64
  | .finite _ mantissa exponent h => .finite false mantissa exponent h
  | .infinite _ => .infinite false
  | .nan => .nan

/-- The value of a finite number without its sign. -/
def magnitude (mantissa : Nat) (exponent : Int) : Rat :=
  (mantissa : Rat) * twoPow exponent

/-- The rounded product. -/
def mul : Binary64 → Binary64 → Binary64
  | .finite s m e _, .finite t n f _ => round (s != t) (magnitude m e * magnitude n f)
  | .finite s m _ _, .infinite t => if m = 0 then .nan else .infinite (s != t)
  | .infinite s, .finite t n _ _ => if n = 0 then .nan else .infinite (s != t)
  | .infinite s, .infinite t => .infinite (s != t)
  | .nan, _ => .nan
  | _, .nan => .nan

/-- The rounded quotient; a nonzero number over zero is infinite. -/
def div : Binary64 → Binary64 → Binary64
  | .finite s m e _, .finite t n f _ =>
      if n = 0 then (if m = 0 then .nan else .infinite (s != t))
      else round (s != t) (magnitude m e / magnitude n f)
  | .finite s _ _ _, .infinite t => zero (s != t)
  | .infinite s, .finite t _ _ _ => .infinite (s != t)
  | .infinite _, .infinite _ => .nan
  | .nan, _ => .nan
  | _, .nan => .nan

/-- The rounded difference. -/
def sub (x y : Binary64) : Binary64 :=
  match x.toRat?, y.toRat? with
  | some a, some b => if a = b then zero (x.isNegative && !y.isNegative) else ofRat (a - b)
  | some _, none => y.neg
  | none, some _ => x
  | none, none => if x = y then .nan else if x = .nan || y = .nan then .nan else x

/-- The nearest whole number, halves away from zero. -/
def roundHalfAway : Binary64 → Binary64
  | .finite negative mantissa exponent h =>
      if 0 ≤ exponent then .finite negative mantissa exponent h
      else
        round negative
          (((2 * mantissa + Nat.pow 2 (-exponent).toNat) /
            Nat.pow 2 ((-exponent).toNat + 1) : Nat) : Rat)
  | x => x

/-- Whether the number is finite and whole. -/
def isWhole : Binary64 → Bool
  | .finite _ mantissa exponent _ => 0 ≤ exponent || mantissa % Nat.pow 2 (-exponent).toNat = 0
  | _ => false

/-- Strictly less, as numbers: the zeros are equal, and nothing compares with
not-a-number. -/
def lt (x y : Binary64) : Bool :=
  match x, y with
  | .nan, _ => false
  | _, .nan => false
  | .infinite s, .infinite t => s && !t
  | .infinite s, .finite .. => s
  | .finite .., .infinite t => !t
  | .finite .., .finite .. =>
      match x.toRat?, y.toRat? with
      | some a, some b => a < b
      | _, _ => false

/-- Less or equal, as numbers. -/
def le (x y : Binary64) : Bool :=
  match x, y with
  | .nan, _ => false
  | _, .nan => false
  | _, _ => !lt y x

/-- The larger number; not-a-number gives way to the other one. -/
def larger (x y : Binary64) : Binary64 :=
  if x = .nan then y else if lt x y then y else x

end Binary64
end ApiContract
