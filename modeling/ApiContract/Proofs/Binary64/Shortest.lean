import ApiContract.Binary64.Decimal
import ApiContract.Proofs.Binary64.Rounding

/-!
# Shortest decimals

The search for the shortest decimal of a positive number ends inside the interval of the
rationals that are rounded to it, because the grid of 17 digits is finer than the interval.
-/

namespace ApiContract
namespace Binary64

variable {x : ℚ} {m : ℕ} {exponent : ℤ}

theorem tenPow_eq (place : ℤ) : tenPow place = (10 : ℚ) ^ place := by
  cases place with
  | ofNat n => simp [tenPow]
  | negSucc n => simp [tenPow, zpow_negSucc, Rat.mkRat_eq_div]

theorem ten_zpow_pos (place : ℤ) : (0 : ℚ) < 10 ^ place :=
  zpow_pos (by norm_num) place

/-! ## Rounding intervals -/

/-- How far the interval of a number reaches below it. -/
def reachBelow (m : ℕ) (exponent : ℤ) : ℚ :=
  if m = 2 ^ 52 ∧ -1074 < exponent then 2 ^ exponent / 4 else 2 ^ exponent / 2

theorem reachBelow_pos (m : ℕ) (exponent : ℤ) : 0 < reachBelow m exponent := by
  have hunit := two_zpow_pos exponent
  rw [reachBelow]
  split <;> linarith

theorem quarter_le_reachBelow (m : ℕ) (exponent : ℤ) :
    2 ^ exponent / 4 ≤ reachBelow m exponent := by
  have hunit := two_zpow_pos exponent
  rw [reachBelow]
  split <;> linarith

theorem reachBelow_le (m : ℕ) (exponent : ℤ) : reachBelow m exponent ≤ 2 ^ exponent / 2 := by
  have hunit := two_zpow_pos exponent
  rw [reachBelow]
  split <;> linarith

theorem interval_eq (m : ℕ) (exponent : ℤ) :
    interval m exponent =
      ⟨m * 2 ^ exponent - reachBelow m exponent, m * 2 ^ exponent + 2 ^ exponent / 2,
        m % 2 = 0⟩ := by
  simp only [interval, reachBelow, twoPow_eq, Nat.pow_eq]

theorem contains_iff {i : Interval} :
    i.contains x = true ↔
      (i.lower < x ∧ x < i.upper) ∨ (i.closed = true ∧ (x = i.lower ∨ x = i.upper)) := by
  simp [Interval.contains]

/-- Being inside the interval of a number is being at most half a unit away from it, and less
than that if its mantissa is odd. -/
theorem near_of_contains (hx : (interval m exponent).contains x = true) :
    m * 2 ^ exponent - reachBelow m exponent ≤ x ∧
      |m * 2 ^ exponent - x| ≤ 2 ^ exponent / 2 ∧
        (|m * 2 ^ exponent - x| = 2 ^ exponent / 2 → m % 2 = 0) := by
  rw [contains_iff, interval_eq] at hx
  simp only [decide_eq_true_eq] at hx
  have hunit := two_zpow_pos exponent
  have hreach := reachBelow_le m exponent
  have hreach' := reachBelow_pos m exponent
  obtain ⟨hlower, hupper⟩ | ⟨heven, hend⟩ := hx
  · have hless : |m * 2 ^ exponent - x| < 2 ^ exponent / 2 :=
      abs_lt.mpr ⟨by linarith, by linarith⟩
    exact ⟨hlower.le, hless.le, fun h => absurd h hless.ne⟩
  · have hlower : m * 2 ^ exponent - reachBelow m exponent ≤ x := by
      rcases hend with h | h <;> linarith
    have hupper : x ≤ m * 2 ^ exponent + 2 ^ exponent / 2 := by
      rcases hend with h | h <;> linarith
    exact ⟨hlower, abs_le.mpr ⟨by linarith, by linarith⟩, fun _ => heven⟩

/-- What is inside the interval of a positive number is rounded to it. -/
theorem round_of_contains (negative : Bool) (hcanonical : Canonical m exponent) (hm : 0 < m)
    (hx : (interval m exponent).contains x = true) :
    round negative x = finite negative m exponent hcanonical := by
  obtain ⟨hsize, hleast, -, hnormal⟩ := id hcanonical
  simp only [Nat.pow_eq] at hsize hnormal
  obtain ⟨hlower, hnear, htie⟩ := near_of_contains hx
  have hunit := two_zpow_pos exponent
  have hreach := reachBelow_le m exponent
  have hone : (1 : ℚ) ≤ m := by exact_mod_cast hm
  have hmul := mul_le_mul_of_nonneg_right hone hunit.le
  have hpos : 0 < x := by linarith
  rw [round_eq negative hpos]
  by_cases hbinade : 2 ^ 52 * 2 ^ exponent ≤ x ∨ exponent = -1074
  · have hsize' : (m : ℚ) + 1 ≤ 2 ^ 53 := by exact_mod_cast hsize
    have hmul' := mul_le_mul_of_nonneg_right hsize' hunit.le
    have hupper := (abs_le.mp hnear).1
    have hscale : scale x = exponent := scale_eq hpos hleast (by linarith) hbinade
    rw [hscale, mantissa_eq hpos.le hscale hnear htie, if_neg hsize.ne, ofParts,
      dif_pos hcanonical]
  · -- below a power of two the numbers are twice as dense
    obtain ⟨hbelow, hne⟩ := not_or.mp hbinade
    rw [not_le] at hbelow
    have hnormal' : 2 ^ 52 ≤ m := hnormal.resolve_right hne
    have hpower : m = 2 ^ 52 := by
      by_contra hother
      have habove : (2 : ℚ) ^ 52 + 1 ≤ m := by
        exact_mod_cast Nat.lt_of_le_of_ne hnormal' (Ne.symm hother)
      have hmul' := mul_le_mul_of_nonneg_right habove hunit.le
      linarith
    subst hpower
    have hdouble : (2 : ℚ) ^ exponent = 2 * 2 ^ (exponent - 1) := by
      rw [← two_zpow_add_one, sub_add_cancel]
    rw [reachBelow, if_pos ⟨rfl, by omega⟩] at hlower
    push_cast at hlower
    have hscale : scale x = exponent - 1 :=
      scale_eq hpos (by omega) (by linarith) (Or.inl (by linarith))
    have hmantissa : mantissa x = 2 ^ 53 := by
      refine mantissa_eq hpos.le hscale ?_ (fun _ => by decide)
      push_cast
      exact abs_le.mpr ⟨by linarith, by linarith⟩
    rw [if_pos hmantissa, hscale, sub_add_cancel, ofParts, dif_pos hcanonical]

/-! ## The search -/

/-- The number that a decimal stands for. -/
def Decimal.value (d : Decimal) : ℚ :=
  d.digits * 10 ^ d.exponent

variable {i : Interval} {place : ℤ}

/-- The whole part of a nonnegative rational. -/
theorem floor_spec (hx : 0 ≤ x) :
    ((x.num.toNat / x.den : ℕ) : ℚ) ≤ x ∧ x < (x.num.toNat / x.den : ℕ) + 1 := by
  have hden : (0 : ℚ) < x.den := by exact_mod_cast x.den_pos
  have hlower : ((x.num.toNat / x.den : ℕ) : ℚ) * x.den ≤ x * x.den := by
    rw [← num_eq hx]
    exact_mod_cast Nat.div_mul_le_self _ _
  have hupper : x * x.den < ((x.num.toNat / x.den : ℕ) + 1) * x.den := by
    rw [← num_eq hx]
    exact_mod_cast Nat.lt_mul_of_div_lt (Nat.lt_succ_self _) x.den_pos
  exact ⟨le_of_mul_le_mul_right hlower hden, lt_of_mul_lt_mul_right hupper hden.le⟩

theorem contains_of_onGrid? {d : Decimal} (h : onGrid? i x place = some d) :
    i.contains d.value = true := by
  rw [onGrid?] at h
  simp only [tenPow_eq] at h
  split at h
  · rename_i hlow
    cases h
    exact ((Bool.and_eq_true _ _).mp hlow).1
  · split at h
    · rename_i hhigh
      cases h
      exact hhigh
    · cases h

/-- A grid that is finer than the distance to the lower end has a number of the interval. -/
theorem exists_onGrid? (hx : 0 ≤ x) (hlower : i.lower + 10 ^ place ≤ x) (hupper : x < i.upper) :
    ∃ d, onGrid? i x place = some d := by
  have hten := ten_zpow_pos place
  have hcancel : x * (10 : ℚ) ^ (-place) * 10 ^ place = x := by
    rw [mul_assoc, ← zpow_add₀ (by norm_num), neg_add_cancel, zpow_zero, mul_one]
  obtain ⟨hfloor, hnext⟩ := floor_spec (mul_nonneg hx (ten_zpow_pos (-place)).le)
  rw [onGrid?]
  simp only [tenPow_eq]
  generalize (x * (10 : ℚ) ^ (-place)).num.toNat / (x * (10 : ℚ) ^ (-place)).den = floor at *
  have hbelow := mul_le_mul_of_nonneg_right hfloor hten.le
  have habove := mul_lt_mul_of_pos_right hnext hten
  rw [hcancel] at hbelow habove
  have hlow : i.contains (floor * 10 ^ place) = true :=
    contains_iff.mpr (Or.inl ⟨by linarith, by linarith⟩)
  rw [hlow]
  cases hhigh : i.contains ((floor + 1 : ℕ) * (10 : ℚ) ^ place) with
  | false => simp
  | true =>
    simp only [Bool.true_and, Bool.not_true, Bool.or_false, if_true]
    split <;> exact ⟨_, rfl⟩

theorem contains_searchGrid {fuel : ℕ}
    (h : ∃ k < fuel, ∃ d, onGrid? i x (place - (k : ℕ)) = some d) :
    i.contains (searchGrid i x place fuel).value = true := by
  induction fuel generalizing place with
  | zero =>
    obtain ⟨k, hk, -⟩ := h
    omega
  | succ fuel ih =>
    rw [searchGrid]
    split
    · rename_i d hfound
      exact contains_of_onGrid? hfound
    · rename_i hnone
      obtain ⟨k, hk, d, hd⟩ := h
      cases k with
      | zero =>
        rw [Nat.cast_zero, sub_zero, hnone] at hd
        cases hd
      | succ k =>
        refine ih ⟨k, by omega, d, ?_⟩
        rw [← hd]
        congr 1
        push_cast
        ring

/-! ## Leading places -/

/-- The guess from the leading bit, in both directions. -/
theorem pow_guess_le :
    ∀ n < 1100, 10 ^ (n * 30103 / 100000) ≤ 2 * 2 ^ n ∧
      2 ^ n ≤ 2 * 10 ^ ((n * 30103 + 99999) / 100000) := by
  decide +kernel

theorem ten_zpow_guess_le {bits : ℤ} (hlower : -1100 < bits) (hupper : bits < 1100) :
    (10 : ℚ) ^ (bits * 30103 / 100000) ≤ 2 * 2 ^ bits := by
  obtain ⟨n, rfl | rfl⟩ := bits.eq_nat_or_neg
  · have hguess := (pow_guess_le n (by omega)).1
    exact_mod_cast hguess
  · have hguess := (pow_guess_le n (by omega)).2
    have hfloor : -(n : ℤ) * 30103 / 100000 = -((n * 30103 + 99999) / 100000 : ℕ) := by omega
    have hguess' : (2 : ℚ) ^ n ≤ 2 * 10 ^ ((n * 30103 + 99999) / 100000) := by
      exact_mod_cast hguess
    rw [hfloor, zpow_neg, zpow_neg, zpow_natCast, zpow_natCast, ← div_eq_mul_inv,
      le_div_iff₀ (by positivity), inv_mul_le_iff₀ (by positivity), mul_comm]
    exact hguess'

/-- The leading digit of a number stands at its leading place or above. -/
theorem ten_zpow_leadingPlace_le (hx : 0 < x) (hlower : 2 ^ (-1074 : ℤ) ≤ x)
    (hupper : x < 2 ^ (1024 : ℤ)) : (10 : ℚ) ^ leadingPlace x ≤ x := by
  obtain ⟨hbelow, habove⟩ := bounds_of_log2 hx
  rw [leadingPlace]
  simp only [tenPow_eq]
  generalize (x.num.toNat.log2 : ℤ) - x.den.log2 = bits at *
  have hmost := (zpow_lt_zpow_iff_right₀ one_lt_two).mp (hbelow.trans hupper)
  have hleast := (zpow_lt_zpow_iff_right₀ one_lt_two).mp (hlower.trans_lt habove)
  have hguess : (10 : ℚ) ^ (bits * 30103 / 100000) ≤ 2 * 2 ^ bits :=
    ten_zpow_guess_le (by omega) (by omega)
  generalize bits * 30103 / 100000 = guess at *
  split
  · rename_i hraised
    rw [if_neg (not_lt.mpr hraised)]
    exact hraised
  · split
    · -- even a guess that is too large is so by one place only
      rw [zpow_sub_one₀ (by norm_num)]
      have hhalf : (2 : ℚ) ^ bits = 2 * 2 ^ (bits - 1) := by
        rw [← two_zpow_add_one, sub_add_cancel]
      linarith
    · rename_i hnotAbove
      exact not_lt.mp hnotAbove

/-! ## Shortest decimals -/

/-- The bounds of finite positive numbers. -/
theorem bounds_of_canonical (hcanonical : Canonical m exponent) (hm : 0 < m) :
    (2 : ℚ) ^ (-1074 : ℤ) ≤ m * 2 ^ exponent ∧ (m : ℚ) * 2 ^ exponent < 2 ^ (1024 : ℤ) := by
  obtain ⟨hsize, hleast, hmost, -⟩ := hcanonical
  have hunit := two_zpow_pos exponent
  constructor
  · have hone : (1 : ℚ) ≤ m := by exact_mod_cast hm
    have hscaled := mul_le_mul_of_nonneg_right hone hunit.le
    rw [one_mul] at hscaled
    exact (two_zpow_le hleast).trans hscaled
  · have hsize' : (m : ℚ) < 2 ^ 53 := by exact_mod_cast hsize
    have hscaled := mul_lt_mul_of_pos_right hsize' hunit
    rw [two_pow_mul_zpow] at hscaled
    exact hscaled.trans_le (two_zpow_le (by push_cast; omega))

/-- The shortest decimal of a number is inside its interval. -/
theorem contains_shortest (hcanonical : Canonical m exponent) (hm : 0 < m) :
    (interval m exponent).contains (shortest m exponent).value = true := by
  obtain ⟨hlower, hupper⟩ := bounds_of_canonical hcanonical hm
  have hunit := two_zpow_pos exponent
  have hpos : (0 : ℚ) < m * 2 ^ exponent := mul_pos (by exact_mod_cast hm) hunit
  have hleading := ten_zpow_leadingPlace_le hpos hlower hupper
  have hsize : (m : ℚ) < 2 ^ 53 := by exact_mod_cast hcanonical.1
  have hscaled := mul_lt_mul_of_pos_right hsize hunit
  have hreach := quarter_le_reachBelow m exponent
  rw [shortest, if_neg hm.ne']
  simp only [magnitude, twoPow_eq]
  -- at 18 places below the leading one the grid is finer than a quarter of the unit
  refine contains_searchGrid ⟨19, by decide, exists_onGrid? hpos.le ?_ ?_⟩
  · have hplace : (10 : ℚ) ^ (leadingPlace (m * 2 ^ exponent) + 1 - (19 : ℕ)) =
        10 ^ leadingPlace (m * 2 ^ exponent) / 10 ^ 18 := by
      rw [show leadingPlace (m * 2 ^ exponent) + 1 - (19 : ℕ) =
        leadingPlace (m * 2 ^ exponent) - (18 : ℕ) by push_cast; ring,
        zpow_sub₀ (by norm_num), zpow_natCast]
    rw [hplace, interval_eq]
    have hfine : (10 : ℚ) ^ leadingPlace (m * 2 ^ exponent) / 10 ^ 18 ≤ 2 ^ exponent / 4 := by
      rw [div_le_iff₀ (by norm_num)]
      linarith
    linarith
  · rw [interval_eq]
    linarith

end Binary64
end ApiContract
