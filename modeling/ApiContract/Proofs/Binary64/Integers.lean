import ApiContract.Proofs.Binary64.Rounding

/-!
# Integers as binary64 numbers

Integers of up to 53 bits are kept, and larger ones are rounded to integers.  A comparison with
a rounded integer can therefore differ from the comparison with the integer itself only next to
the place where the rounding begins.
-/

namespace ApiContract
namespace Binary64

variable {x y : Binary64} {a b : ℚ}

/-! ## Comparison by value -/

theorem isFinite_of_toRat? (hx : x.toRat? = some a) : x.isFinite = true := by
  cases x with
  | finite => rfl
  | infinite => simp [toRat?] at hx
  | nan => simp [toRat?] at hx

theorem lt_eq_decide (hx : x.toRat? = some a) (hy : y.toRat? = some b) :
    lt x y = decide (a < b) := by
  cases x with
  | finite => cases y with
    | finite => simp only [lt, hx, hy]
    | infinite => simp [toRat?] at hy
    | nan => simp [toRat?] at hy
  | infinite => simp [toRat?] at hx
  | nan => simp [toRat?] at hx

theorem le_eq_decide (hx : x.toRat? = some a) (hy : y.toRat? = some b) :
    le x y = decide (a ≤ b) := by
  have hless := lt_eq_decide hy hx
  cases x with
  | finite => cases y with
    | finite => simp only [le, hless, ← decide_not, not_lt]
    | infinite => simp [toRat?] at hy
    | nan => simp [toRat?] at hy
  | infinite => simp [toRat?] at hx
  | nan => simp [toRat?] at hx

theorem isWhole_of_toRat? {n : ℤ} (hx : x.toRat? = some (n : ℚ)) : x.isWhole = true := by
  cases x with
  | infinite => simp [toRat?] at hx
  | nan => simp [toRat?] at hx
  | finite negative mantissa exponent h =>
    obtain hle | hneg := le_or_gt 0 exponent
    · simp [isWhole, hle]
    · have hvalue : ∃ k : ℤ, (mantissa : ℚ) * 2 ^ exponent = k := by
        rw [toRat?_finite, Option.some_inj] at hx
        cases negative with
        | false => exact ⟨n, hx⟩
        | true => exact ⟨-n, by push_cast; exact neg_eq_iff_eq_neg.mp hx⟩
      obtain ⟨k, hk⟩ := hvalue
      have hexponent : exponent = -((-exponent).toNat : ℤ) := by omega
      have hproduct : (mantissa : ℤ) = k * 2 ^ (-exponent).toNat := by
        rw [hexponent, zpow_neg, zpow_natCast, mul_inv_eq_iff_eq_mul₀ (by positivity)] at hk
        exact_mod_cast hk
      have hdvd : 2 ^ (-exponent).toNat ∣ mantissa := by
        zify
        exact ⟨k, by rw [hproduct, mul_comm]⟩
      simp [isWhole, Nat.mod_eq_zero_of_dvd hdvd]

/-! ## Rounded integers -/

/-- Rounding keeps the integers of up to 53 bits. -/
theorem nearest_intCast {n : ℤ} (hn : |n| ≤ 2 ^ 53) : nearest (n : ℚ) = n := by
  have hnatural {k : ℕ} (hk : k ≤ 2 ^ 53) : nearest (k : ℚ) = k := by
    rw [nearest_of_nonneg (Nat.cast_nonneg k)]
    obtain hless | rfl := Nat.lt_or_eq_of_le hk
    · simpa using nearestMagnitude_mul hless (by decide : (-1074 : ℤ) ≤ 0)
    · have hkept := nearestMagnitude_mul (by decide : 2 ^ 52 < 2 ^ 53) (by decide : (-1074 : ℤ) ≤ 1)
      norm_num at hkept ⊢
      exact hkept
  obtain ⟨k, rfl | rfl⟩ := n.eq_nat_or_neg
  · rw [Int.cast_natCast]
    exact hnatural (by simpa using hn)
  · rw [Int.cast_neg, Int.cast_natCast, nearest_neg, hnatural (by simpa using hn)]

/-- An integer is rounded to an integer. -/
theorem exists_nearest_intCast (n : ℤ) : ∃ k : ℤ, nearest (n : ℚ) = k := by
  have hnatural (m : ℕ) : ∃ k : ℤ, nearest (m : ℚ) = k := by
    obtain hsmall | hlarge := lt_or_ge m (2 ^ 53)
    · exact ⟨m, nearest_intCast (by simpa using hsmall.le)⟩
    · have hpos : (0 : ℚ) < m := by exact_mod_cast lt_of_lt_of_le (by decide) hlarge
      have hscale : 0 ≤ scale (m : ℚ) := by
        by_contra hneg
        have hupper := (scale_spec hpos).1
        have hpow : (2 : ℚ) ^ scale (m : ℚ) ≤ 2 ^ (0 : ℤ) := two_zpow_le (by omega)
        have hlarge' : (2 : ℚ) ^ 53 ≤ m := by exact_mod_cast hlarge
        rw [zpow_zero] at hpow
        linarith
      refine ⟨mantissa m * 2 ^ (scale (m : ℚ)).toNat, ?_⟩
      rw [nearest_of_nonneg hpos.le, nearestMagnitude]
      push_cast
      rw [← zpow_natCast, Int.toNat_of_nonneg hscale]
  obtain ⟨m, rfl | rfl⟩ := n.eq_nat_or_neg
  · exact_mod_cast hnatural m
  · obtain ⟨k, hk⟩ := hnatural m
    exact ⟨-k, by rw [Int.cast_neg, Int.cast_natCast, nearest_neg, hk, Int.cast_neg]⟩

/-! ## Comparison with integers of 53 bits -/

theorem toRat?_ofInt {n : ℤ} (hn : |n| ≤ 2 ^ 64) : (ofInt n).toRat? = some (nearest (n : ℚ)) := by
  refine toRat?_ofRat ?_
  have hsmall : |(n : ℚ)| ≤ 2 ^ (64 : ℤ) := by exact_mod_cast hn
  exact hsmall.trans_lt (zpow_lt_zpow_right₀ one_lt_two (by decide))

/-- The value to which a given integer is rounded, by computation. -/
theorem nearest_eq_of_toRat? {n : ℤ} (hn : |n| ≤ 2 ^ 64) (h : (ofInt n).toRat? = some a) :
    nearest (n : ℚ) = a :=
  Option.some_inj.mp ((toRat?_ofInt hn).symm.trans h)

theorem nearest_intCast_mono {n k : ℤ} (h : n ≤ k) : nearest (n : ℚ) ≤ nearest (k : ℚ) :=
  nearest_mono (by exact_mod_cast h)

/-- An integer of more than 53 bits may be rounded to one of 53 bits, but only if it is next
to it. -/
theorem nearest_intCast_lt_iff {n k : ℤ} (hk : |k| ≤ 2 ^ 53) :
    nearest (n : ℚ) < k ↔ n < k ∧ ¬(k = -2 ^ 53 ∧ n = -2 ^ 53 - 1) := by
  have hkept := nearest_intCast hk
  rw [abs_le] at hk
  constructor
  · intro h
    constructor
    · by_contra hle
      have hmono := nearest_intCast_mono (not_lt.mp hle)
      linarith
    · rintro ⟨rfl, rfl⟩
      have hnext : nearest ((-2 ^ 53 - 1 : ℤ) : ℚ) = -9007199254740992 :=
        nearest_eq_of_toRat? (by decide) (by decide +kernel)
      rw [hnext] at h
      norm_num at h
  · rintro ⟨hless, hnotNext⟩
    obtain hedge | hinner := hk.1.eq_or_lt
    · have hmono := nearest_intCast_mono (show n ≤ -2 ^ 53 - 2 by omega)
      have hnext : nearest ((-2 ^ 53 - 2 : ℤ) : ℚ) = -9007199254740994 :=
        nearest_eq_of_toRat? (by decide) (by decide +kernel)
      rw [hnext] at hmono
      rw [← hedge]
      push_cast
      linarith
    · have hmono := nearest_intCast_mono (show n ≤ k - 1 by omega)
      have hbefore : nearest ((k - 1 : ℤ) : ℚ) = (k - 1 : ℤ) :=
        nearest_intCast (abs_le.mpr ⟨by omega, by omega⟩)
      rw [hbefore] at hmono
      push_cast at hmono
      linarith

theorem lt_nearest_intCast_iff {n k : ℤ} (hk : |k| ≤ 2 ^ 53) :
    (k : ℚ) < nearest (n : ℚ) ↔ k < n ∧ ¬(k = 2 ^ 53 ∧ n = 2 ^ 53 + 1) := by
  have hopposite := nearest_intCast_lt_iff (n := -n) (k := -k) (by rwa [abs_neg])
  rw [Int.cast_neg, Int.cast_neg, nearest_neg, neg_lt_neg_iff] at hopposite
  rw [hopposite]
  omega

/-! ## Comparison with the largest integer of 64 bits -/

/-- The largest 64 bit integer is rounded up, and so are the 511 integers before it. -/
theorem nearest_lt_nearest_max_iff {n : ℤ} :
    nearest (n : ℚ) < nearest ((9223372036854775807 : ℤ) : ℚ) ↔ n < 2 ^ 63 - 512 := by
  have hmax : nearest ((9223372036854775807 : ℤ) : ℚ) = 9223372036854775808 :=
    nearest_eq_of_toRat? (by decide) (by decide +kernel)
  rw [hmax]
  constructor
  · intro h
    by_contra hle
    have hmono := nearest_intCast_mono (not_lt.mp hle)
    have hup : nearest ((2 ^ 63 - 512 : ℤ) : ℚ) = 9223372036854775808 :=
      nearest_eq_of_toRat? (by decide) (by decide +kernel)
    linarith
  · intro hless
    have hmono := nearest_intCast_mono (show n ≤ 2 ^ 63 - 513 by omega)
    have hdown : nearest ((2 ^ 63 - 513 : ℤ) : ℚ) = 9223372036854774784 :=
      nearest_eq_of_toRat? (by decide) (by decide +kernel)
    linarith

end Binary64
end ApiContract
