import ApiContract.Binary64.Arithmetic
import Mathlib.Algebra.Order.Field.Power
import Mathlib.Data.Rat.Floor
import Mathlib.Tactic.FieldSimp
import Mathlib.Tactic.Linarith
import Mathlib.Tactic.NormNum
import Mathlib.Tactic.Positivity

/-!
# Rounding to binary64

A rational is rounded by scaling it to the mantissas of 53 bits and taking the nearest whole
number there.  Below the largest numbers the result has the value `nearest`, which does not
decrease where the rational grows and keeps every number that needs no rounding.
-/

namespace ApiContract
namespace Binary64

variable {x y : ℚ}

theorem twoPow_eq (exponent : ℤ) : twoPow exponent = (2 : ℚ) ^ exponent := by
  cases exponent with
  | ofNat n => simp [twoPow]
  | negSucc n => simp [twoPow, zpow_negSucc, Rat.mkRat_eq_div]

/-! ## Nearest whole numbers -/

/-- The numerator of a nonnegative rational. -/
theorem num_eq (hx : 0 ≤ x) : (x.num.toNat : ℚ) = x * x.den := by
  rw [Rat.mul_den_eq_num]
  exact_mod_cast Int.toNat_of_nonneg (Rat.num_nonneg.mpr hx)

/-- The nearest whole number, by the parts of the rational: it is at most a half away, and even
where it is a half away. -/
theorem nearestEven_parts (x : ℚ) :
    2 * x.num.toNat ≤ 2 * (nearestEven x * x.den) + x.den ∧
      2 * (nearestEven x * x.den) ≤ 2 * x.num.toNat + x.den ∧
        (2 * x.num.toNat = 2 * (nearestEven x * x.den) + x.den ∨
          2 * (nearestEven x * x.den) = 2 * x.num.toNat + x.den → nearestEven x % 2 = 0) := by
  have hdivision := Nat.div_add_mod' x.num.toNat x.den
  have hless := Nat.mod_lt x.num.toNat x.den_pos
  rw [nearestEven]
  generalize x.num.toNat / x.den = whole at *
  generalize x.num.toNat % x.den = rest at *
  split
  · omega
  · split
    · rw [Nat.add_mul]
      omega
    · obtain heven | hodd := Nat.mod_two_eq_zero_or_one whole
      · rw [heven, Nat.add_zero]
        omega
      · rw [hodd, Nat.add_mul]
        omega

/-- The nearest whole number is at most a half away. -/
theorem abs_nearestEven_sub_le (hx : 0 ≤ x) : |(nearestEven x : ℚ) - x| ≤ 1 / 2 := by
  obtain ⟨hupper, hlower, -⟩ := nearestEven_parts x
  have hden : (0 : ℚ) < x.den := by exact_mod_cast x.den_pos
  have hupper' : 2 * (x.num.toNat : ℚ) ≤ 2 * (nearestEven x * x.den) + x.den := by
    exact_mod_cast hupper
  have hlower' : 2 * ((nearestEven x : ℚ) * x.den) ≤ 2 * x.num.toNat + x.den := by
    exact_mod_cast hlower
  rw [num_eq hx] at hupper' hlower'
  rw [abs_le]
  constructor
  · refine le_of_mul_le_mul_right ?_ hden
    linarith
  · refine le_of_mul_le_mul_right ?_ hden
    linarith

/-- Where two whole numbers are equally near, the even one is taken. -/
theorem nearestEven_even_of_tie (hx : 0 ≤ x) (htie : |(nearestEven x : ℚ) - x| = 1 / 2) :
    nearestEven x % 2 = 0 := by
  refine (nearestEven_parts x).2.2 ?_
  have hnum := num_eq hx
  obtain habove | hbelow := (abs_eq (by norm_num)).mp htie
  · right
    have hvalue : (nearestEven x : ℚ) = x + 1 / 2 := by linarith
    have hscaled : 2 * ((nearestEven x : ℚ) * x.den) = 2 * x.num.toNat + x.den := by
      rw [hnum, hvalue]
      ring
    exact_mod_cast hscaled
  · left
    have hvalue : (nearestEven x : ℚ) = x - 1 / 2 := by linarith
    have hscaled : 2 * (x.num.toNat : ℚ) = 2 * (nearestEven x * x.den) + x.den := by
      rw [hnum, hvalue]
      ring
    exact_mod_cast hscaled

/-- The whole number at most a half away is the nearest one, if it is even or the distance is
less. -/
theorem nearestEven_eq {k : ℕ} (hx : 0 ≤ x) (hnear : |(k : ℚ) - x| ≤ 1 / 2)
    (htie : |(k : ℚ) - x| = 1 / 2 → k % 2 = 0) : nearestEven x = k := by
  have hnear' := abs_nearestEven_sub_le hx
  have htie' := nearestEven_even_of_tie hx
  by_contra hne
  obtain hless | hgreater := Nat.lt_or_gt_of_ne hne
  · have hapart : (nearestEven x : ℚ) + 1 ≤ k := by exact_mod_cast hless
    have habove := (abs_le.mp hnear).2
    have hbelow := (abs_le.mp hnear').1
    have heven := htie (by rw [abs_of_nonneg] <;> linarith)
    have heven' := htie' (by rw [abs_of_nonpos] <;> linarith)
    have hnext : (k : ℚ) = (nearestEven x + 1 : ℕ) := by push_cast; linarith
    have hnext' : k = nearestEven x + 1 := by exact_mod_cast hnext
    omega
  · have hapart : (k : ℚ) + 1 ≤ nearestEven x := by exact_mod_cast hgreater
    have habove := (abs_le.mp hnear').2
    have hbelow := (abs_le.mp hnear).1
    have heven := htie (by rw [abs_of_nonpos] <;> linarith)
    have heven' := htie' (by rw [abs_of_nonneg] <;> linarith)
    have hnext : (nearestEven x : ℚ) = (k + 1 : ℕ) := by push_cast; linarith
    have hnext' : nearestEven x = k + 1 := by exact_mod_cast hnext
    omega

theorem nearestEven_natCast (n : ℕ) : nearestEven (n : ℚ) = n := by
  have hnear := abs_le.mp (abs_nearestEven_sub_le (Nat.cast_nonneg (α := ℚ) n))
  have hupper : (nearestEven (n : ℚ) : ℚ) < n + 1 := by linarith
  have hlower : (n : ℚ) < nearestEven (n : ℚ) + 1 := by linarith
  have hupper' : nearestEven (n : ℚ) < n + 1 := by exact_mod_cast hupper
  have hlower' : n < nearestEven (n : ℚ) + 1 := by exact_mod_cast hlower
  omega

theorem nearestEven_mono (hx : 0 ≤ x) (hxy : x ≤ y) : nearestEven x ≤ nearestEven y := by
  by_contra hless
  have hnear := abs_le.mp (abs_nearestEven_sub_le hx)
  have hnear' := abs_le.mp (abs_nearestEven_sub_le (hx.trans hxy))
  have hapart : (nearestEven y : ℚ) + 1 ≤ nearestEven x := by exact_mod_cast not_le.mp hless
  -- both are half way between two whole numbers, and so they are the same
  have hsame : x = y := by linarith
  rw [hsame] at hless
  exact hless le_rfl

/-! ## Scales -/

theorem two_zpow_pos (exponent : ℤ) : (0 : ℚ) < 2 ^ exponent :=
  zpow_pos two_pos exponent

theorem two_zpow_add_one (exponent : ℤ) : (2 : ℚ) ^ (exponent + 1) = 2 * 2 ^ exponent := by
  rw [zpow_add_one₀ two_ne_zero, mul_comm]

theorem two_pow_mul_zpow (n : ℕ) (exponent : ℤ) :
    (2 : ℚ) ^ n * 2 ^ exponent = 2 ^ (n + exponent) := by
  rw [zpow_add₀ two_ne_zero, zpow_natCast]

theorem two_zpow_le {a b : ℤ} (h : a ≤ b) : (2 : ℚ) ^ a ≤ 2 ^ b :=
  zpow_le_zpow_right₀ one_le_two h

/-- A positive rational lies between the powers of two around the quotient of the leading bits
of its parts. -/
theorem bounds_of_log2 (hx : 0 < x) :
    (2 : ℚ) ^ ((x.num.toNat.log2 : ℤ) - x.den.log2 - 1) < x ∧
      x < (2 : ℚ) ^ ((x.num.toNat.log2 : ℤ) - x.den.log2 + 1) := by
  have hnum : x.num.toNat ≠ 0 := by
    have hpositive := Rat.num_pos.mpr hx
    omega
  have hden : (0 : ℚ) < x.den := by exact_mod_cast x.den_pos
  have hnumLower : (2 : ℚ) ^ x.num.toNat.log2 ≤ x * x.den := by
    rw [← num_eq hx.le]
    exact_mod_cast Nat.log2_self_le hnum
  have hnumUpper : x * x.den < (2 : ℚ) ^ (x.num.toNat.log2 + 1) := by
    rw [← num_eq hx.le]
    exact_mod_cast Nat.lt_log2_self
  have hdenLower : (2 : ℚ) ^ x.den.log2 ≤ x.den := by
    exact_mod_cast Nat.log2_self_le x.den_nz
  have hdenUpper : (x.den : ℚ) < 2 ^ (x.den.log2 + 1) := by
    exact_mod_cast Nat.lt_log2_self
  generalize x.num.toNat.log2 = a at *
  generalize x.den.log2 = b at *
  have hsplit : ((a : ℤ) - b - 1) = (a : ℤ) - (b + 1 : ℕ) := by push_cast; ring
  have hsplit' : ((a : ℤ) - b + 1) = (a + 1 : ℕ) - (b : ℤ) := by push_cast; ring
  rw [hsplit, hsplit', zpow_sub₀ two_ne_zero, zpow_sub₀ two_ne_zero, zpow_natCast, zpow_natCast,
    zpow_natCast, zpow_natCast, div_lt_iff₀ (by positivity), lt_div_iff₀ (by positivity)]
  constructor
  · calc (2 : ℚ) ^ a ≤ x * x.den := hnumLower
      _ < x * 2 ^ (b + 1) := mul_lt_mul_of_pos_left hdenUpper hx
  · calc x * 2 ^ b ≤ x * x.den := mul_le_mul_of_nonneg_left hdenLower hx.le
      _ < 2 ^ (a + 1) := hnumUpper

theorem le_scale (x : ℚ) : -1074 ≤ scale x :=
  le_max_right _ _

/-- The scale of a positive rational is the one at which it has a mantissa of 53 bits, or the
least one. -/
theorem scale_spec (hx : 0 < x) :
    x < 2 ^ 53 * 2 ^ scale x ∧ (2 ^ 52 * 2 ^ scale x ≤ x ∨ scale x = -1074) := by
  obtain ⟨hlower, hupper⟩ := bounds_of_log2 hx
  rw [scale]
  generalize (x.num.toNat.log2 : ℤ) - x.den.log2 = bits at *
  rw [two_pow_mul_zpow, two_pow_mul_zpow]
  have hguess : ((Nat.pow 2 52 : ℕ) : ℚ) * twoPow (bits - 52) = 2 ^ bits := by
    rw [twoPow_eq, Nat.pow_eq, Nat.cast_pow, Nat.cast_ofNat, two_pow_mul_zpow]
    congr 1
    ring
  rw [hguess]
  split
  · rename_i hbelow
    constructor
    · exact hbelow.trans_le (two_zpow_le (by push_cast; omega))
    · rcases le_total (bits - 52 - 1) (-1074) with hsmall | hlarge
      · exact Or.inr (max_eq_right hsmall)
      · rw [max_eq_left hlarge]
        refine Or.inl ((two_zpow_le ?_).trans hlower.le)
        push_cast
        omega
  · rename_i habove
    constructor
    · exact hupper.trans_le (two_zpow_le (by push_cast; omega))
    · rcases le_total (bits - 52) (-1074) with hsmall | hlarge
      · exact Or.inr (max_eq_right hsmall)
      · rw [max_eq_left hlarge]
        refine Or.inl ((two_zpow_le ?_).trans (not_lt.mp habove))
        push_cast
        omega

/-- At no other exponent does the number have a mantissa of 53 bits. -/
theorem scale_eq {exponent : ℤ} (hx : 0 < x) (hle : -1074 ≤ exponent)
    (hupper : x < 2 ^ 53 * 2 ^ exponent)
    (hlower : 2 ^ 52 * 2 ^ exponent ≤ x ∨ exponent = -1074) : scale x = exponent := by
  obtain ⟨hupper', hlower'⟩ := scale_spec hx
  have hleast := le_scale x
  have hdisjoint {a b : ℤ} (hless : a < b) (ha : x < 2 ^ 53 * 2 ^ a) :
      ¬2 ^ 52 * 2 ^ b ≤ x := by
    have hgap : (2 : ℚ) ^ (a + 1) ≤ 2 ^ b := two_zpow_le (by omega)
    rw [two_zpow_add_one] at hgap
    rw [not_le]
    linarith
  obtain hless | rfl | hgreater := lt_trichotomy (scale x) exponent
  · obtain hlower | rfl := hlower
    · exact absurd hlower (hdisjoint hless hupper')
    · omega
  · rfl
  · obtain hlower' | hleast' := hlower'
    · exact absurd hlower' (hdisjoint hgreater hupper)
    · omega

theorem scale_mono (hx : 0 < x) (hxy : x ≤ y) : scale x ≤ scale y := by
  by_contra hless
  obtain ⟨hupper, -⟩ := scale_spec (hx.trans_le hxy)
  obtain ⟨-, hlower | hleast⟩ := scale_spec hx
  · have hgap : (2 : ℚ) ^ (scale y + 1) ≤ 2 ^ scale x := two_zpow_le (by omega)
    rw [two_zpow_add_one] at hgap
    linarith
  · have hbound := le_scale y
    omega

/-! ## Values -/

/-- The mantissa of the number nearest to a nonnegative rational. -/
def mantissa (x : ℚ) : ℕ :=
  nearestEven (x * 2 ^ (-scale x))

/-- The number nearest to a nonnegative rational, as if there were no largest one. -/
def nearestMagnitude (x : ℚ) : ℚ :=
  mantissa x * 2 ^ scale x

/-- The number nearest to a rational, as if there were no largest one. -/
def nearest (x : ℚ) : ℚ :=
  if x < 0 then -nearestMagnitude (-x) else nearestMagnitude x

theorem mul_two_zpow_neg_nonneg (hx : 0 ≤ x) : 0 ≤ x * 2 ^ (-scale x) :=
  mul_nonneg hx (two_zpow_pos _).le

theorem two_zpow_mul_neg (exponent : ℤ) : (2 : ℚ) ^ exponent * 2 ^ (-exponent) = 1 := by
  rw [← zpow_add₀ two_ne_zero, add_neg_cancel, zpow_zero]

/-- The mantissa at most half a unit away is the nearest one, if it is even or the distance is
less. -/
theorem mantissa_eq {k : ℕ} {exponent : ℤ} (hx : 0 ≤ x) (hscale : scale x = exponent)
    (hnear : |k * 2 ^ exponent - x| ≤ 2 ^ exponent / 2)
    (htie : |k * 2 ^ exponent - x| = 2 ^ exponent / 2 → k % 2 = 0) : mantissa x = k := by
  have hunit := two_zpow_pos (-exponent)
  have hcancel := two_zpow_mul_neg exponent
  have hscaled : |(k : ℚ) - x * 2 ^ (-exponent)| = |k * 2 ^ exponent - x| * 2 ^ (-exponent) := by
    rw [← abs_of_pos hunit, ← abs_mul, abs_of_pos hunit, sub_mul, mul_assoc, hcancel, mul_one]
  have hhalf : (2 : ℚ) ^ exponent / 2 * 2 ^ (-exponent) = 1 / 2 := by
    rw [div_mul_eq_mul_div, hcancel]
  rw [mantissa, hscale]
  refine nearestEven_eq (mul_nonneg hx hunit.le) ?_ ?_
  · rw [hscaled, ← hhalf]
    exact mul_le_mul_of_nonneg_right hnear hunit.le
  · rw [hscaled, ← hhalf]
    exact fun h => htie (mul_right_cancel₀ hunit.ne' h)

theorem mantissa_le (hx : 0 < x) : mantissa x ≤ 2 ^ 53 := by
  have hscaled : x * 2 ^ (-scale x) ≤ ((2 ^ 53 : ℕ) : ℚ) := by
    calc x * 2 ^ (-scale x)
        ≤ 2 ^ 53 * 2 ^ scale x * 2 ^ (-scale x) :=
          mul_le_mul_of_nonneg_right (scale_spec hx).1.le (two_zpow_pos _).le
      _ = ((2 ^ 53 : ℕ) : ℚ) := by rw [mul_assoc, two_zpow_mul_neg]; norm_num
  exact (nearestEven_mono (mul_two_zpow_neg_nonneg hx.le) hscaled).trans_eq
    (nearestEven_natCast _)

theorem le_mantissa (hx : 2 ^ 52 * 2 ^ scale x ≤ x) : 2 ^ 52 ≤ mantissa x := by
  have hscaled : ((2 ^ 52 : ℕ) : ℚ) ≤ x * 2 ^ (-scale x) := by
    calc ((2 ^ 52 : ℕ) : ℚ)
        = 2 ^ 52 * 2 ^ scale x * 2 ^ (-scale x) := by
          rw [mul_assoc, two_zpow_mul_neg]; norm_num
      _ ≤ x * 2 ^ (-scale x) := mul_le_mul_of_nonneg_right hx (two_zpow_pos _).le
  exact (nearestEven_natCast _).symm.trans_le
    (nearestEven_mono (Nat.cast_nonneg _) hscaled)

theorem nearestMagnitude_zero : nearestMagnitude 0 = 0 := by
  have hzero : mantissa 0 = 0 := by
    rw [mantissa, zero_mul]
    exact nearestEven_natCast 0
  rw [nearestMagnitude, hzero, Nat.cast_zero, zero_mul]

theorem nearestMagnitude_nonneg (x : ℚ) : 0 ≤ nearestMagnitude x :=
  mul_nonneg (Nat.cast_nonneg _) (two_zpow_pos _).le

/-- A number that has a mantissa and an exponent in the range is kept. -/
theorem nearestMagnitude_mul {k : ℕ} {exponent : ℤ} (hk : k < 2 ^ 53) (hle : -1074 ≤ exponent) :
    nearestMagnitude (k * 2 ^ exponent) = k * 2 ^ exponent := by
  obtain rfl | hpos := Nat.eq_zero_or_pos k
  · rw [Nat.cast_zero, zero_mul, nearestMagnitude_zero]
  · have hx : (0 : ℚ) < k * 2 ^ exponent :=
      mul_pos (by exact_mod_cast hpos) (two_zpow_pos _)
    have hscale : scale (k * 2 ^ exponent) ≤ exponent := by
      by_contra hless
      obtain hlower | hleast := (scale_spec hx).2
      · have hgap : (2 : ℚ) ^ (exponent + 1) ≤ 2 ^ scale (k * 2 ^ exponent) :=
          two_zpow_le (by omega)
        have hk' : (k : ℚ) < 2 ^ 53 := by exact_mod_cast hk
        have hupper := mul_lt_mul_of_pos_right hk' (two_zpow_pos exponent)
        rw [two_zpow_add_one] at hgap
        linarith
      · omega
    -- the scaled number is whole, since its exponent is not below the scale
    have hwhole : (k : ℚ) * 2 ^ exponent * 2 ^ (-scale (k * 2 ^ exponent)) =
        ((k * 2 ^ (exponent - scale (k * 2 ^ exponent)).toNat : ℕ) : ℚ) := by
      rw [mul_assoc, ← zpow_add₀ two_ne_zero, ← sub_eq_add_neg]
      push_cast
      rw [← zpow_natCast, Int.toNat_of_nonneg (by omega)]
    rw [nearestMagnitude, mantissa, hwhole, nearestEven_natCast, ← hwhole, mul_assoc, mul_comm _
      ((2 : ℚ) ^ scale _), two_zpow_mul_neg, mul_one]

theorem nearestMagnitude_mono (hx : 0 ≤ x) (hxy : x ≤ y) :
    nearestMagnitude x ≤ nearestMagnitude y := by
  obtain rfl | hpos := hx.eq_or_lt
  · rw [nearestMagnitude_zero]
    exact nearestMagnitude_nonneg y
  · obtain hsame | hless := (scale_mono hpos hxy).eq_or_lt
    · have hscaled : x * 2 ^ (-scale x) ≤ y * 2 ^ (-scale y) := by
        rw [hsame]
        exact mul_le_mul_of_nonneg_right hxy (two_zpow_pos _).le
      have hmantissa : (mantissa x : ℚ) ≤ mantissa y := by
        exact_mod_cast nearestEven_mono (mul_two_zpow_neg_nonneg hx) hscaled
      rw [nearestMagnitude, nearestMagnitude, hsame]
      exact mul_le_mul_of_nonneg_right hmantissa (two_zpow_pos _).le
    · -- the mantissa of the one is too small for the scale of the other
      obtain hlower | hleast := (scale_spec (hpos.trans_le hxy)).2
      · have hmantissa : (mantissa x : ℚ) ≤ 2 ^ 53 := by exact_mod_cast mantissa_le hpos
        have hmantissa' : (2 : ℚ) ^ 52 ≤ mantissa y := by exact_mod_cast le_mantissa hlower
        have hgap : (2 : ℚ) ^ (scale x + 1) ≤ 2 ^ scale y := two_zpow_le (by omega)
        rw [two_zpow_add_one] at hgap
        have hbelow := mul_le_mul_of_nonneg_right hmantissa (two_zpow_pos (scale x)).le
        have habove := mul_le_mul_of_nonneg_right hmantissa' (two_zpow_pos (scale y)).le
        rw [nearestMagnitude, nearestMagnitude]
        linarith
      · have hbound := le_scale x
        omega

theorem nearest_of_nonneg (hx : 0 ≤ x) : nearest x = nearestMagnitude x :=
  if_neg (not_lt.mpr hx)

theorem nearest_neg (x : ℚ) : nearest (-x) = -nearest x := by
  obtain hneg | rfl | hpos := lt_trichotomy x 0
  · rw [nearest, if_neg (by linarith), nearest, if_pos hneg, neg_neg]
  · rw [neg_zero, nearest_of_nonneg le_rfl, nearestMagnitude_zero, neg_zero]
  · rw [nearest, if_pos (by linarith), nearest_of_nonneg hpos.le, neg_neg]

/-- Rounding does not change the order. -/
theorem nearest_mono (hxy : x ≤ y) : nearest x ≤ nearest y := by
  obtain hx | hx := le_or_gt 0 x
  · rw [nearest_of_nonneg hx, nearest_of_nonneg (hx.trans hxy)]
    exact nearestMagnitude_mono hx hxy
  · obtain hy | hy := le_or_gt 0 y
    · rw [nearest, if_pos hx, nearest_of_nonneg hy]
      exact (neg_nonpos.mpr (nearestMagnitude_nonneg _)).trans (nearestMagnitude_nonneg _)
    · rw [nearest, nearest, if_pos hx, if_pos hy, neg_le_neg_iff]
      exact nearestMagnitude_mono (by linarith) (by linarith)

/-! ## Rounded numbers -/

theorem toRat?_finite {negative : Bool} {m : ℕ} {exponent : ℤ} (h : Canonical m exponent) :
    (finite negative m exponent h).toRat? =
      some (if negative then -((m : ℚ) * 2 ^ exponent) else (m : ℚ) * 2 ^ exponent) := by
  rw [toRat?, twoPow_eq]

theorem toRat?_ofParts {negative : Bool} {m : ℕ} {exponent : ℤ} (h : Canonical m exponent) :
    (ofParts negative m exponent).toRat? =
      some (if negative then -((m : ℚ) * 2 ^ exponent) else (m : ℚ) * 2 ^ exponent) := by
  rw [ofParts, dif_pos h, toRat?_finite]

theorem scale_le (hx : 0 < x) (hsmall : x < 2 ^ (1023 : ℤ)) : scale x ≤ 970 := by
  obtain hlower | hleast := (scale_spec hx).2
  · rw [two_pow_mul_zpow] at hlower
    have hless := (zpow_lt_zpow_iff_right₀ one_lt_two).mp (hlower.trans_lt hsmall)
    omega
  · omega

/-- A positive rational is rounded to its mantissa; one that has a bit too many makes up for it
by the exponent. -/
theorem round_eq (negative : Bool) (hx : 0 < x) :
    round negative x =
      if mantissa x = 2 ^ 53 then ofParts negative (2 ^ 52) (scale x + 1)
      else ofParts negative (mantissa x) (scale x) := by
  have hnum : x.num ≠ 0 := Rat.num_ne_zero.mpr hx.ne'
  have hmantissa : nearestEven (x * twoPow (-scale x)) = mantissa x := by
    rw [mantissa, twoPow_eq]
  rw [round, if_neg hnum]
  simp only [hmantissa, Nat.pow_eq]

/-- A rational that is not too large is rounded to a finite number of the nearest value. -/
theorem toRat?_round (negative : Bool) (hx : 0 ≤ x) (hsmall : x < 2 ^ (1023 : ℤ)) :
    (round negative x).toRat? =
      some (if negative then -nearestMagnitude x else nearestMagnitude x) := by
  obtain rfl | hpos := hx.eq_or_lt
  · have hzero : (round negative 0).toRat? = some 0 := by
      cases negative <;> simp [round, zero, toRat?]
    rw [hzero, nearestMagnitude_zero, neg_zero, ite_self]
  · have hscale := scale_le hpos hsmall
    have hleast := le_scale x
    have hle := mantissa_le hpos
    rw [round_eq negative hpos]
    split
    · rename_i hmax
      have hcarry : ((2 ^ 52 : ℕ) : ℚ) * 2 ^ (scale x + 1) = nearestMagnitude x := by
        rw [nearestMagnitude, hmax, two_zpow_add_one]
        push_cast
        ring
      have hcanonical : Canonical (2 ^ 52) (scale x + 1) :=
        ⟨by decide, by omega, by omega, Or.inl le_rfl⟩
      rw [toRat?_ofParts hcanonical, hcarry]
    · rename_i hless
      have hcanonical : Canonical (mantissa x) (scale x) :=
        ⟨lt_of_le_of_ne hle hless, hleast, by omega, (scale_spec hpos).2.imp_left le_mantissa⟩
      rw [toRat?_ofParts hcanonical, nearestMagnitude]

theorem toRat?_ofRat (hsmall : |x| < 2 ^ (1023 : ℤ)) : (ofRat x).toRat? = some (nearest x) := by
  obtain ⟨hlower, hupper⟩ := abs_lt.mp hsmall
  rw [ofRat, nearest]
  obtain hneg | hnonneg := lt_or_ge x 0
  · have hnum : x.num < 0 := Rat.num_neg.mpr hneg
    rw [if_pos hnum, if_pos hneg, toRat?_round _ (by linarith) (by linarith)]
    simp [hnum]
  · have hnum : ¬x.num < 0 := not_lt.mpr (Rat.num_nonneg.mpr hnonneg)
    rw [if_neg hnum, if_neg (not_lt.mpr hnonneg), toRat?_round _ hnonneg hupper]
    simp [hnum]

end Binary64
end ApiContract
