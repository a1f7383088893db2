import ApiContract.Proofs.Binary64.Integers

/-!
# Rounded quotients and their distance from whole numbers

A rounded product or quotient has the value that is nearest to the exact one, and differs from
it by at most one part in 2 ^ 53.  The difference between a number and the whole number nearest
to it is not rounded at all.
-/

namespace ApiContract
namespace Binary64

variable {x y : Binary64} {a b q : ℚ}

/-! ## Errors of rounding -/

theorem abs_nearestMagnitude_sub_le (hq : 2 ^ (-1022 : ℤ) ≤ q) :
    |nearestMagnitude q - q| ≤ q / 2 ^ 53 := by
  have hpos : 0 < q := (two_zpow_pos _).trans_le hq
  have hunit : 2 ^ 52 * 2 ^ scale q ≤ q := by
    obtain hlower | hleast := (scale_spec hpos).2
    · exact hlower
    · rwa [hleast, two_pow_mul_zpow]
  have herror : nearestMagnitude q - q = (mantissa q - q * 2 ^ (-scale q)) * 2 ^ scale q := by
    rw [nearestMagnitude, sub_mul, mul_assoc q, mul_comm (2 ^ (-scale q)),
      two_zpow_mul_neg, mul_one]
  have hhalf : |(mantissa q : ℚ) - q * 2 ^ (-scale q)| ≤ 1 / 2 :=
    abs_nearestEven_sub_le (mul_two_zpow_neg_nonneg hpos.le)
  calc |nearestMagnitude q - q|
      = |(mantissa q : ℚ) - q * 2 ^ (-scale q)| * 2 ^ scale q := by
        rw [herror, abs_mul, abs_of_pos (two_zpow_pos _)]
    _ ≤ 1 / 2 * 2 ^ scale q := mul_le_mul_of_nonneg_right hhalf (two_zpow_pos _).le
    _ ≤ q / 2 ^ 53 := by linarith

/-- The value that a rational is rounded to differs from it by at most one part in 2 ^ 53,
unless the rational is very small. -/
theorem abs_nearest_sub_le (hq : q = 0 ∨ 2 ^ (-1022 : ℤ) ≤ |q|) :
    |nearest q - q| ≤ |q| / 2 ^ 53 := by
  obtain rfl | hq := hq
  · simp [nearest_of_nonneg, nearestMagnitude_zero]
  · obtain hneg | hnonneg := lt_or_ge q 0
    · rw [abs_of_neg hneg] at hq ⊢
      have herror := abs_nearestMagnitude_sub_le hq
      rwa [nearest, if_pos hneg, ← abs_neg, neg_sub, sub_neg_eq_add, add_comm, ← sub_neg_eq_add]
    · rw [abs_of_nonneg hnonneg] at hq ⊢
      rw [nearest_of_nonneg hnonneg]
      exact abs_nearestMagnitude_sub_le hq

theorem nearest_bounds (hq : 2 ^ (-1022 : ℤ) ≤ q) :
    (1 - 1 / 2 ^ 53) * q ≤ nearest q ∧ nearest q ≤ (1 + 1 / 2 ^ 53) * q := by
  have hnonneg : 0 ≤ q := (two_zpow_pos _).le.trans hq
  have herror := abs_le.mp (abs_nearestMagnitude_sub_le hq)
  rw [nearest_of_nonneg hnonneg]
  constructor <;> linarith

theorem abs_nearest_le (hq : |q| ≤ 2 ^ 53) : |nearest q| ≤ 2 ^ 53 := by
  have hkept : nearest (2 ^ 53) = 2 ^ 53 := by
    have hinteger := nearest_intCast (n := 2 ^ 53) (by decide)
    push_cast at hinteger
    exact hinteger
  obtain ⟨hlower, hupper⟩ := abs_le.mp hq
  refine abs_le.mpr ⟨?_, ?_⟩
  · rw [← hkept, ← nearest_neg]
    exact nearest_mono hlower
  · rw [← hkept]
    exact nearest_mono hupper

/-- A number of 53 bits at any place is kept. -/
theorem nearest_intCast_mul {n exponent : ℤ} (hn : |n| < 2 ^ 53) (hle : -1074 ≤ exponent) :
    nearest (n * 2 ^ exponent) = n * 2 ^ exponent := by
  have hnatural {k : ℕ} (hk : k < 2 ^ 53) :
      nearest (k * 2 ^ exponent) = k * 2 ^ exponent := by
    rw [nearest_of_nonneg (mul_nonneg (Nat.cast_nonneg k) (two_zpow_pos _).le)]
    exact nearestMagnitude_mul hk hle
  obtain ⟨k, rfl | rfl⟩ := n.eq_nat_or_neg
  · exact_mod_cast hnatural (by simpa using hn)
  · rw [Int.cast_neg, Int.cast_natCast, neg_mul, nearest_neg, hnatural (by simpa using hn)]

/-! ## Values of results -/

/-- A rounded magnitude under a sign has the value nearest to the signed one. -/
theorem toRat?_round_eq (negative : Bool) (hq : 0 ≤ q) (hsmall : q < 2 ^ (1023 : ℤ)) :
    (round negative q).toRat? = some (nearest (if negative then -q else q)) := by
  rw [toRat?_round negative hq hsmall]
  cases negative
  · simp [nearest_of_nonneg hq]
  · simp [nearest_neg, nearest_of_nonneg hq]

theorem toRat?_larger (hx : x.toRat? = some a) (hy : y.toRat? = some b) :
    (x.larger y).toRat? = some (max a b) := by
  have hnan : x ≠ .nan := by
    rintro rfl
    simp [toRat?] at hx
  rw [larger, if_neg hnan, lt_eq_decide hx hy]
  obtain hless | hle := lt_or_ge a b
  · rw [if_pos (decide_eq_true hless), hy, max_eq_right hless.le]
  · rw [if_neg (by simpa using hle), hx, max_eq_left hle]

theorem toRat?_sub (hx : x.toRat? = some a) (hy : y.toRat? = some b)
    (hsmall : |a - b| < 2 ^ (1023 : ℤ)) : (x.sub y).toRat? = some (nearest (a - b)) := by
  simp only [sub, hx, hy]
  split
  · rename_i hsame
    rw [hsame, sub_self, nearest_of_nonneg le_rfl, nearestMagnitude_zero]
    simp [zero, toRat?_finite]
  · exact toRat?_ofRat hsmall

/-- A number under a sign. -/
def signed {α : Type} [Neg α] (negative : Bool) (n : α) : α :=
  if negative then -n else n

section Signs

variable (s t : Bool) (p q : ℚ)

theorem signed_mul : signed s p * signed t q = signed (s != t) (p * q) := by
  cases s <;> cases t <;> simp [signed]

theorem signed_div : signed s p / signed t q = signed (s != t) (p / q) := by
  cases s <;> cases t <;> simp [signed, neg_div, div_neg]

theorem signed_sub : signed s p - signed s q = signed s (p - q) := by
  cases s
  · rfl
  · simp only [signed, if_true]
    ring

theorem signed_mul_right : signed s (p * q) = signed s p * q := by
  cases s <;> simp [signed]

theorem abs_signed : |signed s q| = |q| := by
  cases s <;> simp [signed]

theorem intCast_signed (n : ℤ) : ((signed s n : ℤ) : ℚ) = signed s (n : ℚ) := by
  cases s <;> simp [signed]

end Signs

theorem magnitude_nonneg (m : ℕ) (exponent : ℤ) : 0 ≤ magnitude m exponent := by
  rw [magnitude, twoPow_eq]
  exact mul_nonneg (Nat.cast_nonneg m) (two_zpow_pos _).le

/-- A number with a value has a sign and a magnitude. -/
theorem exists_signed_of_toRat? (hx : x.toRat? = some a) :
    ∃ s m e hm, x = finite s m e hm ∧ a = signed s (magnitude m e) := by
  cases x with
  | infinite => simp [toRat?] at hx
  | nan => simp [toRat?] at hx
  | finite s m e hm => exact ⟨s, m, e, hm, rfl, (Option.some_inj.mp hx).symm⟩

theorem toRat?_abs (hx : x.toRat? = some a) : x.abs.toRat? = some |a| := by
  obtain ⟨s, m, e, hm, rfl, rfl⟩ := exists_signed_of_toRat? hx
  rw [abs_signed, abs_of_nonneg (magnitude_nonneg m e)]
  rfl

theorem toRat?_mul (hx : x.toRat? = some a) (hy : y.toRat? = some b)
    (hsmall : |a * b| < 2 ^ (1023 : ℤ)) : (x.mul y).toRat? = some (nearest (a * b)) := by
  obtain ⟨s, m, e, hm, rfl, rfl⟩ := exists_signed_of_toRat? hx
  obtain ⟨t, n, f, hn, rfl, rfl⟩ := exists_signed_of_toRat? hy
  have hnonneg := mul_nonneg (magnitude_nonneg m e) (magnitude_nonneg n f)
  rw [signed_mul, abs_signed, abs_of_nonneg hnonneg] at hsmall
  rw [mul, signed_mul]
  exact toRat?_round_eq _ hnonneg hsmall

theorem toRat?_div (hx : x.toRat? = some a) (hy : y.toRat? = some b) (hb : b ≠ 0)
    (hsmall : |a / b| < 2 ^ (1023 : ℤ)) : (x.div y).toRat? = some (nearest (a / b)) := by
  obtain ⟨s, m, e, hm, rfl, rfl⟩ := exists_signed_of_toRat? hx
  obtain ⟨t, n, f, hn, rfl, rfl⟩ := exists_signed_of_toRat? hy
  have hdivisor : n ≠ 0 := by
    rintro rfl
    simp [signed, magnitude] at hb
  have hnonneg := div_nonneg (magnitude_nonneg m e) (magnitude_nonneg n f)
  rw [signed_div, abs_signed, abs_of_nonneg hnonneg] at hsmall
  rw [div, if_neg hdivisor, signed_div]
  exact toRat?_round_eq _ hnonneg hsmall

/-! ## The nearest whole number -/

/-- The nearest whole number to a mantissa of which only the bits from `k` on are whole, and
how much the mantissa differs from it. -/
theorem nearestWhole_spec {m k whole : ℕ} (hk : 0 < k) (hm : m < 2 ^ 53)
    (hwhole : (2 * m + 2 ^ k) / 2 ^ (k + 1) = whole) :
    whole ≤ 2 ^ 53 ∧ |2 * ((m : ℤ) - whole * 2 ^ k)| ≤ 2 ^ k ∧
      |(m : ℤ) - whole * 2 ^ k| < 2 ^ 53 := by
  have hdivision := Nat.div_add_mod (2 * m + 2 ^ k) (2 ^ (k + 1))
  have hrest := Nat.mod_lt (2 * m + 2 ^ k) (Nat.two_pow_pos (k + 1))
  have hunit : 2 ≤ 2 ^ k := by simpa using Nat.pow_le_pow_right (n := 2) two_pos hk
  have hdouble : 2 ^ (k + 1) = 2 * 2 ^ k := by ring
  have hcast : (2 : ℤ) ^ k = ((2 ^ k : ℕ) : ℤ) := by push_cast; rfl
  rw [hwhole, hdouble, mul_assoc, mul_comm _ whole] at hdivision
  rw [hdouble] at hrest
  rw [hcast, ← Nat.cast_mul]
  have hsmall : 2 * whole ≤ whole * 2 ^ k := by
    rw [mul_comm]
    exact Nat.mul_le_mul_left whole hunit
  -- without a whole unit nothing is taken away, and with one the unit is not too large
  have hpositive : whole * 2 ^ k = 0 ∨ 2 ^ k ≤ whole * 2 ^ k := by
    obtain rfl | hpos := Nat.eq_zero_or_pos whole
    · exact Or.inl (Nat.zero_mul _)
    · exact Or.inr (Nat.le_mul_of_pos_left _ hpos)
  generalize (2 * m + 2 ^ k) % (2 * 2 ^ k) = rest at *
  generalize 2 ^ k = unit at *
  generalize whole * unit = multiple at *
  exact ⟨by omega, abs_le.mpr ⟨by omega, by omega⟩, abs_lt.mpr ⟨by omega, by omega⟩⟩

theorem magnitude_sub_eq (m k whole : ℕ) :
    magnitude m (-k) - whole = (((m : ℤ) - whole * 2 ^ k : ℤ) : ℚ) * 2 ^ (-k : ℤ) := by
  have hunit : (2 : ℚ) ^ k * 2 ^ (-k : ℤ) = 1 := by rw [← zpow_natCast, two_zpow_mul_neg]
  rw [magnitude, twoPow_eq]
  push_cast
  rw [sub_mul, mul_assoc, hunit, mul_one]

/-- Where the last bits of the mantissa are a fraction, the nearest whole number is reached
without rounding. -/
theorem toRat?_roundHalfAway {s : Bool} {m k whole : ℕ} {hm : Canonical m (-k)} (hk : 0 < k)
    (hwhole : (2 * m + 2 ^ k) / 2 ^ (k + 1) = whole) (hbound : whole ≤ 2 ^ 53) :
    (finite s m (-k) hm).roundHalfAway.toRat? = some (signed s (whole : ℚ)) := by
  have hshift : (2 * m + Nat.pow 2 (- -(k : ℤ)).toNat) / Nat.pow 2 ((- -(k : ℤ)).toNat + 1) =
      whole := by simpa using hwhole
  have hbits : |signed s (whole : ℤ)| ≤ 2 ^ 53 := by
    rw [signed]
    split <;> simpa using hbound
  have hkept := nearest_intCast hbits
  have hsmall : (whole : ℚ) < 2 ^ (1023 : ℤ) := by
    have hcast : (whole : ℚ) ≤ 2 ^ (53 : ℤ) := by exact_mod_cast hbound
    exact hcast.trans_lt (zpow_lt_zpow_right₀ one_lt_two (by decide))
  rw [intCast_signed, Int.cast_natCast] at hkept
  rw [roundHalfAway, if_neg (by omega), hshift,
    toRat?_round_eq s (Nat.cast_nonneg whole) hsmall]
  exact congrArg some hkept

/-- A difference of 53 bits that is at most a half is not rounded. -/
theorem toRat?_sub_of_bits {j exponent : ℤ} (hx : x.toRat? = some a) (hy : y.toRat? = some b)
    (hbits : |j| < 2 ^ 53) (hle : -1074 ≤ exponent) (hj : a - b = j * 2 ^ exponent)
    (hnear : |a - b| ≤ 1 / 2) : (x.sub y).toRat? = some (a - b) := by
  have hhalf : (1 / 2 : ℚ) < 2 ^ (1023 : ℤ) :=
    lt_of_lt_of_le (by norm_num) (two_zpow_le (show (0 : ℤ) ≤ 1023 by decide))
  rw [toRat?_sub hx hy (hnear.trans_lt hhalf), hj, nearest_intCast_mul hbits hle]

/-- A number without a fraction is whole. -/
theorem exists_signed_eq_intCast (s : Bool) (m : ℕ) {e : ℤ} (he : 0 ≤ e) :
    ∃ n : ℤ, signed s (magnitude m e) = n := by
  refine ⟨signed s (m * 2 ^ e.toNat), ?_⟩
  rw [intCast_signed, magnitude, twoPow_eq]
  push_cast
  rw [← zpow_natCast, Int.toNat_of_nonneg he]

/-- What is left of a mantissa of which the last `k` bits are a fraction is at most a half. -/
theorem abs_mul_two_zpow_neg_le {j : ℤ} {k : ℕ} (hj : |2 * j| ≤ 2 ^ k) :
    |(j : ℚ) * 2 ^ (-k : ℤ)| ≤ 1 / 2 := by
  have hdouble : 2 * |(j : ℚ)| ≤ 2 ^ k := by
    rw [abs_mul, abs_two] at hj
    exact_mod_cast hj
  have hscaled := mul_le_mul_of_nonneg_right hdouble (two_zpow_pos (-k)).le
  rw [← zpow_natCast, two_zpow_mul_neg] at hscaled
  rw [abs_mul, abs_of_pos (two_zpow_pos _)]
  linarith

/-- The nearest whole number is at most a half away, and the difference is exact. -/
theorem exists_roundHalfAway (hx : x.toRat? = some a) :
    ∃ n : ℤ, |a - n| ≤ 1 / 2 ∧ (x.sub x.roundHalfAway).toRat? = some (a - n) := by
  obtain ⟨s, m, e, hm, rfl, rfl⟩ := exists_signed_of_toRat? hx
  obtain hnonneg | hneg := le_or_gt 0 e
  · obtain ⟨n, hn⟩ := exists_signed_eq_intCast s m hnonneg
    have hsame : signed s (magnitude m e) - n = (0 : ℤ) * 2 ^ (0 : ℤ) := by simp [hn]
    have hhalf : |signed s (magnitude m e) - n| ≤ 1 / 2 := by
      rw [hsame]
      norm_num
    rw [roundHalfAway, if_pos hnonneg]
    exact ⟨n, hhalf, toRat?_sub_of_bits hx (hn ▸ hx) (by decide) (by decide) hsame hhalf⟩
  · obtain ⟨k, rfl⟩ : ∃ k : ℕ, e = -k := ⟨(-e).toNat, by omega⟩
    obtain ⟨whole, hwhole⟩ : ∃ whole, (2 * m + 2 ^ k) / 2 ^ (k + 1) = whole := ⟨_, rfl⟩
    obtain ⟨hbound, hnear, hbits⟩ := nearestWhole_spec (by omega) hm.1 hwhole
    have hdifference := magnitude_sub_eq m k whole
    obtain ⟨j, hj⟩ : ∃ j : ℤ, (m : ℤ) - whole * 2 ^ k = j := ⟨_, rfl⟩
    rw [hj] at hnear hbits hdifference
    have hsigned : signed s (magnitude m (-k)) - signed s (whole : ℚ) =
        (signed s j : ℤ) * 2 ^ (-k : ℤ) := by
      rw [signed_sub, hdifference, signed_mul_right, intCast_signed]
    have hhalf : |signed s (magnitude m (-k)) - signed s (whole : ℚ)| ≤ 1 / 2 := by
      rw [signed_sub, abs_signed, hdifference]
      exact abs_mul_two_zpow_neg_le hnear
    have hbits' : |signed s j| < 2 ^ 53 := by
      rw [signed]
      split
      · rwa [abs_neg]
      · exact hbits
    have hrounded : (finite s m (-k) hm).roundHalfAway.toRat? = some (signed s (whole : ℚ)) :=
      toRat?_roundHalfAway (by omega) hwhole hbound
    refine ⟨signed s (whole : ℤ), ?_, ?_⟩
    · rwa [intCast_signed]
    · rw [intCast_signed]
      exact toRat?_sub_of_bits hx hrounded hbits' hm.2.1 hsigned hhalf

end Binary64
end ApiContract
