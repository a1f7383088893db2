import ApiContract.Binary64.Decimal
import ApiContract.Json.Basic

/-!
# Number literals of JSON

A literal without point or exponent that fits 64 bits is an integer, and every
other one is a binary64 number.  The latter takes as many leading digits as fit
64 bits, rounds them, and multiplies or divides by a power of ten, so its last
bit may differ from that of the nearest number.
-/

namespace ApiContract

/-- The parts of a number literal; a part that is not written is `none`. -/
structure NumberLiteral where
  negative : Bool
  whole : List Char
  fraction : Option (List Char)
  exponent : Option Int

namespace NumberLiteral

/-- The leading digits that fit 64 bits after `n`, and how many digits follow
them. -/
def significand (n : Nat) : List Char → Nat × Nat
  | [] => (n, 0)
  | c :: rest =>
      let next := n * 10 + (c.toNat - 48)
      if next < Nat.pow 2 64 then significand next rest else (n, rest.length + 1)

/-- A power of ten as a binary64 number. -/
def power (exponent : Nat) : Binary64 :=
  .ofInt (Nat.pow 10 exponent)

/-- Divides by a power of ten in steps of at most `10 ^ 308`. -/
def descend (x : Binary64) (exponent : Nat) : (steps : Nat) → Binary64
  | 0 => x
  | steps + 1 =>
      if exponent ≤ 308 then x.div (power exponent)
      else if x = .zero false then x
      else descend (x.div (power 308)) (exponent - 308) steps

/-- The number `n * 10 ^ exponent`, rounded at every step, or `none` if it is
too large.  Three divisions turn every number of 64 bits into zero. -/
def scaled? (n : Nat) (exponent : Int) : Option Binary64 :=
  let x := Binary64.ofInt n
  if exponent < 0 then some (descend x (-exponent).toNat 4)
  else if exponent ≤ 308 then (x.mul (power exponent.toNat)) |> some |>.filter Binary64.isFinite
  else if n = 0 then some x
  else none

/-- The binary64 number of a literal. -/
def toBinary64? (literal : NumberLiteral) : Option Binary64 :=
  let (n, dropped) := significand 0 literal.whole
  let fraction := literal.fraction.getD []
  let (n, rest) := significand n fraction
  let exponent : Int := dropped - (fraction.length - rest : Nat) + literal.exponent.getD 0
  (scaled? n exponent).map fun x => if literal.negative then x.neg else x

/-- The number of a literal, or `none` if it is too large for binary64. -/
def toNumber? (literal : NumberLiteral) : Option Number :=
  let n := Ascii.decimal literal.whole
  let isWhole := literal.fraction.isNone && literal.exponent.isNone
  if isWhole && !literal.negative && n < Nat.pow 2 64 then some (.integer n)
  else if isWhole && literal.negative && 0 < n && n ≤ Nat.pow 2 63 then some (.integer (-n))
  else literal.toBinary64?.map .float

end NumberLiteral
end ApiContract
