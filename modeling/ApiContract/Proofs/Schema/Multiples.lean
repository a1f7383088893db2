import ApiContract.Proofs.Binary64.Quotients
import ApiContract.Proofs.Schema.IntegerRange

/-!
# Multiples of integers

Whether a number is a multiple is decided by how far its rounded quotient is from a whole
number, where the tolerance grows with the quotient.  Of two integers of 53 bits the one that
divides the other is always found to do so.  An integer that is no multiple is refused as long
as neither integer is about a billion times as large as its distance from the nearest multiple,
and accepted from there on.
-/

namespace ApiContract

open Binary64 (nearest)

/-! ## The tolerance -/

namespace Schema

variable {number divisor : Binary64} {a b q : ℚ}

/-- The rounded quotient is not farther from a whole number than the tolerance. -/
def IsTolerated (q : ℚ) : Prop :=
  ∃ k : ℤ, |nearest q - k| ≤ nearest (nearest (1 / 10 ^ 9) * max |nearest q| 1)

theorem lt_two_zpow {q : ℚ} (h : q ≤ 2 ^ 53) : q < 2 ^ (1023 : ℤ) := by
  refine h.trans_lt ?_
  rw [← zpow_natCast]
  exact zpow_lt_zpow_right₀ one_lt_two (by decide)

theorem toRat?_tolerance : tolerance.toRat? = some (nearest (1 / 10 ^ 9)) := by
  have hvalue : mkRat 1 1000000000 = (1 / 10 ^ 9 : ℚ) := by
    rw [Rat.mkRat_eq_div]
    norm_num
  rw [tolerance, hvalue]
  refine Binary64.toRat?_ofRat (lt_two_zpow ?_)
  rw [abs_of_pos (by norm_num)]
  norm_num

/-- No whole number is nearer than one that is at most a half away. -/
theorem abs_sub_le_of_half {n : ℤ} (hnear : |q - n| ≤ 1 / 2) (k : ℤ) : |q - n| ≤ |q - k| := by
  obtain rfl | hne := eq_or_ne n k
  · exact le_rfl
  · have hapart : (1 : ℚ) ≤ |(n : ℚ) - k| := by
      exact_mod_cast Int.one_le_abs (sub_ne_zero.mpr hne)
    have htriangle : |(n : ℚ) - k| ≤ |q - n| + |q - k| := by
      rw [abs_sub_comm q n]
      exact abs_sub_le _ _ _
    linarith

/-- The rounded tolerance. -/
theorem bounds_of_tolerance :
    (1 - 1 / 2 ^ 53) / 10 ^ 9 ≤ nearest (1 / 10 ^ 9) ∧
      nearest (1 / 10 ^ 9) ≤ (1 + 1 / 2 ^ 53) / 10 ^ 9 := by
  have hsmall : (2 : ℚ) ^ (-1022 : ℤ) ≤ 1 / 10 ^ 9 :=
    (Binary64.two_zpow_le (show (-1022 : ℤ) ≤ -30 by decide)).trans (by norm_num)
  simpa only [mul_one_div] using Binary64.nearest_bounds hsmall

theorem toRat?_limit {quotient : Binary64} (hquotient : quotient.toRat? = some a)
    (hsmall : |a| ≤ 2 ^ 53) :
    (tolerance.mul (quotient.abs.larger (.ofInt 1))).toRat? =
      some (nearest (nearest (1 / 10 ^ 9) * max |a| 1)) := by
  have hone : (Binary64.ofInt 1).toRat? = some 1 := by
    rw [Binary64.toRat?_ofInt (by decide), Binary64.nearest_intCast (by decide), Int.cast_one]
  have hlarger := Binary64.toRat?_larger (Binary64.toRat?_abs hquotient) hone
  have hproduct : |nearest (1 / 10 ^ 9) * max |a| 1| ≤ 2 ^ 53 := by
    obtain ⟨hlower, hupper⟩ := bounds_of_tolerance
    have htolerance : |nearest (1 / 10 ^ 9)| ≤ 1 := abs_le.mpr ⟨by linarith, by linarith⟩
    have hmax : max |a| 1 ≤ 2 ^ 53 := max_le hsmall (by norm_num)
    rw [abs_mul, abs_of_pos (lt_max_of_lt_right one_pos)]
    exact (mul_le_mul htolerance hmax (le_max_of_le_right one_pos.le) one_pos.le).trans_eq
      (one_mul _)
  exact Binary64.toRat?_mul toRat?_tolerance hlarger (lt_two_zpow hproduct)

theorem isMultipleOf_iff_isTolerated (hnumber : number.toRat? = some a)
    (hdivisor : divisor.toRat? = some b) (hb : 0 < b) (hsmall : |a / b| ≤ 2 ^ 53) :
    isMultipleOf number divisor = true ↔ IsTolerated (a / b) := by
  have hquotient := Binary64.toRat?_div hnumber hdivisor hb.ne' (lt_two_zpow hsmall)
  obtain ⟨n, hnear, hdifference⟩ := Binary64.exists_roundHalfAway hquotient
  have hlimit := toRat?_limit hquotient (Binary64.abs_nearest_le hsmall)
  have hpositive : Binary64.lt (.zero false) divisor = true := by
    rw [Binary64.lt_eq_decide (a := 0) (by simp [Binary64.zero, Binary64.toRat?]) hdivisor]
    exact decide_eq_true hb
  rw [isMultipleOf, Binary64.isFinite_of_toRat? hdivisor, hpositive, Bool.true_and, if_pos rfl,
    Binary64.le_eq_decide (Binary64.toRat?_abs hdifference) hlimit, decide_eq_true_eq]
  constructor
  · exact fun h => ⟨n, h⟩
  · rintro ⟨k, hk⟩
    exact (abs_sub_le_of_half hnear k).trans hk

/-! ## Quotients around the tolerance -/

theorem bounds_of_max_abs_nearest (hq : q = 0 ∨ 2 ^ (-1022 : ℤ) ≤ |q|) :
    (1 - 1 / 2 ^ 53) * max |q| 1 ≤ max |nearest q| 1 ∧
      max |nearest q| 1 ≤ (1 + 1 / 2 ^ 53) * max |q| 1 := by
  have herror := Binary64.abs_nearest_sub_le hq
  have hone : 1 ≤ max |nearest q| 1 := le_max_right _ _
  have hone' : 1 ≤ max |q| 1 := le_max_right _ _
  have hrounded : |nearest q| ≤ max |nearest q| 1 := le_max_left _ _
  have hsize : |q| ≤ max |q| 1 := le_max_left _ _
  have hless : |q| - |nearest q| ≤ |nearest q - q| := by
    rw [abs_sub_comm]
    exact abs_sub_abs_le_abs_sub _ _
  have hless' : |nearest q| - |q| ≤ |nearest q - q| := abs_sub_abs_le_abs_sub _ _
  refine ⟨?_, max_le (by linarith) (by linarith)⟩
  obtain hsmall | hlarge := le_total |q| 1
  · rw [max_eq_right hsmall]
    linarith
  · rw [max_eq_left hlarge]
    linarith

/-- Three roundings change the limit by three parts in 2 ^ 53 at most. -/
theorem bounds_of_limit (hq : q = 0 ∨ 2 ^ (-1022 : ℤ) ≤ |q|) :
    (1 - 1 / 2 ^ 53) ^ 3 / 10 ^ 9 * max |q| 1 ≤
        nearest (nearest (1 / 10 ^ 9) * max |nearest q| 1) ∧
      nearest (nearest (1 / 10 ^ 9) * max |nearest q| 1) ≤
        (1 + 1 / 2 ^ 53) ^ 3 / 10 ^ 9 * max |q| 1 := by
  obtain ⟨htolerance, htolerance'⟩ := bounds_of_tolerance
  obtain ⟨hquotient, hquotient'⟩ := bounds_of_max_abs_nearest hq
  have hone : 1 ≤ max |q| 1 := le_max_right _ _
  have hone' : 1 ≤ max |nearest q| 1 := le_max_right _ _
  have hproduct := mul_le_mul htolerance hquotient (by linarith) (by linarith)
  have hproduct' := mul_le_mul htolerance' hquotient' (by linarith) (by norm_num)
  have hsmall : (2 : ℚ) ^ (-1022 : ℤ) ≤ nearest (1 / 10 ^ 9) * max |nearest q| 1 := by
    have hleast : (2 : ℚ) ^ (-1022 : ℤ) ≤ (1 - 1 / 2 ^ 53) / 10 ^ 9 * (1 - 1 / 2 ^ 53) :=
      (Binary64.two_zpow_le (show (-1022 : ℤ) ≤ -31 by decide)).trans (by norm_num)
    linarith
  obtain ⟨hlimit, hlimit'⟩ := Binary64.nearest_bounds hsmall
  constructor
  · linarith
  · linarith

theorem isTolerated_of_near {k : ℤ} (hq : q = 0 ∨ 2 ^ (-1022 : ℤ) ≤ |q|)
    (hnear : (10 ^ 9 + 112) * |q - k| ≤ max |q| 1) : IsTolerated q := by
  refine ⟨k, le_trans ?_ (bounds_of_limit hq).1⟩
  have herror := Binary64.abs_nearest_sub_le hq
  have htriangle : |nearest q - k| ≤ |nearest q - q| + |q - k| := abs_sub_le _ _ _
  have hsize : |q| ≤ max |q| 1 := le_max_left _ _
  have hone : 1 ≤ max |q| 1 := le_max_right _ _
  generalize max |q| 1 = m at *
  linarith

theorem not_isTolerated_of_far (hq : q = 0 ∨ 2 ^ (-1022 : ℤ) ≤ |q|)
    (hfar : ∀ k : ℤ, max |q| 1 ≤ (10 ^ 9 - 112) * |q - k|) : ¬IsTolerated q := by
  rintro ⟨k, hk⟩
  have hlimit := hk.trans (bounds_of_limit hq).2
  have hfar := hfar k
  have herror := Binary64.abs_nearest_sub_le hq
  have htriangle : |q - k| ≤ |nearest q - q| + |nearest q - k| := by
    rw [abs_sub_comm (nearest q) q]
    exact abs_sub_le _ _ _
  have hsize : |q| ≤ max |q| 1 := le_max_left _ _
  have hone : 1 ≤ max |q| 1 := le_max_right _ _
  generalize max |q| 1 = m at *
  linarith

/-! ## Distances from multiples -/

/-- How far an integer is from the nearest multiple. -/
def distance (n d : ℤ) : ℤ :=
  min (n % d) (d - n % d)

variable {n d : ℤ}

theorem exists_distance_eq (hd : 0 < d) (n : ℤ) : ∃ k, |n - k * d| = distance n d := by
  have hnonneg := Int.emod_nonneg n hd.ne'
  have hless := Int.emod_lt_of_pos n hd
  have hdivision := Int.emod_add_ediv_mul n d
  obtain hle | hgt := le_total (n % d) (d - n % d)
  · refine ⟨n / d, ?_⟩
    rw [distance, min_eq_left hle, abs_of_nonneg (by omega)]
    omega
  · refine ⟨n / d + 1, ?_⟩
    rw [distance, min_eq_right hgt, add_mul, one_mul, abs_of_nonpos (by omega)]
    omega

theorem distance_le (hd : 0 < d) (k : ℤ) : distance n d ≤ |n - k * d| := by
  have hnonneg := Int.emod_nonneg n hd.ne'
  have hless := Int.emod_lt_of_pos n hd
  have hdivision := Int.emod_add_ediv_mul n d
  obtain hle | hgt := le_or_gt k (n / d)
  · have hmultiple := mul_le_mul_of_nonneg_right hle hd.le
    exact (min_le_left _ _).trans (le_abs.mpr (Or.inl (by omega)))
  · have hmultiple := mul_le_mul_of_nonneg_right (Int.add_one_le_of_lt hgt) hd.le
    rw [add_mul, one_mul] at hmultiple
    exact (min_le_right _ _).trans (le_abs.mpr (Or.inr (by omega)))

theorem distance_pos_iff (hd : 0 < d) : 0 < distance n d ↔ ¬d ∣ n := by
  have hnonneg := Int.emod_nonneg n hd.ne'
  have hless := Int.emod_lt_of_pos n hd
  rw [distance, Int.dvd_iff_emod_eq_zero, lt_min_iff]
  omega

/-- A quotient is as far from a whole number as the integer is from a multiple, measured in
divisors. -/
theorem abs_div_sub_eq (hd : 0 < d) (n k : ℤ) :
    |(n / d : ℚ) - k| = ((|n - k * d| : ℤ) : ℚ) / d := by
  have hd' : (0 : ℚ) < d := by exact_mod_cast hd
  push_cast
  rw [← abs_of_pos hd', ← abs_div, abs_of_pos hd', sub_div, mul_div_cancel_right₀ _ hd'.ne']

theorem max_abs_div_eq (hd : 0 < d) (n : ℤ) :
    max |(n / d : ℚ)| 1 = ((max |n| d : ℤ) : ℚ) / d := by
  have hd' : (0 : ℚ) < d := by exact_mod_cast hd
  push_cast
  rw [← max_div_div_right hd'.le, div_self hd'.ne', abs_div, abs_of_pos hd']

theorem div_eq_zero_or_le (hd : 0 < d) (hd' : d ≤ 2 ^ 53) (n : ℤ) :
    (n / d : ℚ) = 0 ∨ 2 ^ (-1022 : ℤ) ≤ |(n / d : ℚ)| := by
  obtain rfl | hne := eq_or_ne n 0
  · simp
  · right
    have hpos : (0 : ℚ) < d := by exact_mod_cast hd
    have hlarge : (1 : ℚ) ≤ |(n : ℚ)| := by exact_mod_cast Int.one_le_abs hne
    have hsmall : (d : ℚ) ≤ 2 ^ 53 := by exact_mod_cast hd'
    have hunit : (2 : ℚ) ^ (-1022 : ℤ) ≤ 2 ^ (-53 : ℤ) := Binary64.two_zpow_le (by decide)
    rw [abs_div, abs_of_pos hpos, le_div_iff₀ hpos]
    calc (2 : ℚ) ^ (-1022 : ℤ) * d ≤ 2 ^ (-53 : ℤ) * 2 ^ 53 :=
          mul_le_mul hunit hsmall hpos.le (by positivity)
      _ = 1 := by norm_num
      _ ≤ |(n : ℚ)| := hlarge

theorem isTolerated_div_of_near (hd : 0 < d) (hd' : d ≤ 2 ^ 53)
    (hnear : (10 ^ 9 + 112) * distance n d ≤ max |n| d) : IsTolerated (n / d) := by
  have hpos : (0 : ℚ) < d := by exact_mod_cast hd
  obtain ⟨k, hk⟩ := exists_distance_eq hd n
  refine isTolerated_of_near (k := k) (div_eq_zero_or_le hd hd' n) ?_
  rw [abs_div_sub_eq hd, max_abs_div_eq hd, hk, ← mul_div_assoc, div_le_div_iff_of_pos_right hpos]
  exact_mod_cast hnear

theorem not_isTolerated_div_of_far (hd : 0 < d) (hd' : d ≤ 2 ^ 53)
    (hfar : max |n| d ≤ (10 ^ 9 - 112) * distance n d) : ¬IsTolerated (n / d) := by
  have hpos : (0 : ℚ) < d := by exact_mod_cast hd
  refine not_isTolerated_of_far (div_eq_zero_or_le hd hd' n) fun k => ?_
  have hleast := distance_le hd k (n := n)
  have hfar' : max |n| d ≤ (10 ^ 9 - 112) * |n - k * d| := by omega
  rw [abs_div_sub_eq hd, max_abs_div_eq hd, ← mul_div_assoc, div_le_div_iff_of_pos_right hpos]
  exact_mod_cast hfar'

/-! ## Schemas for multiples -/

/-- The schema asks for integers that are multiples of a given one, and puts no other condition
on numbers. -/
structure AsksMultiples (schema : Schema) (d : ℤ) : Prop where
  isEnd : schema.IsEnd
  discriminator_eq : schema.discriminator = none
  type_eq : schema.type = some .integer
  format_ne : schema.format ≠ some .int32
  minimum_eq : schema.minimum = none
  maximum_eq : schema.maximum = none
  multipleOf_eq : schema.multipleOf = some (.ofInt d)

variable {components : Components} {schema : Schema}

theorem accepts_iff_isTolerated (hschema : schema.AsksMultiples d) (hn : |n| ≤ 2 ^ 53)
    (hd : 0 < d) (hd' : d ≤ 2 ^ 53) :
    components.accepts (.number (.integer n)) schema = true ↔ IsTolerated (n / d) := by
  have hpos : (0 : ℚ) < d := by exact_mod_cast hd
  obtain ⟨hlower, hupper⟩ := abs_le.mp hn
  have hkept {k : ℤ} (hk : |k| ≤ 2 ^ 53) : (Binary64.ofInt k).toRat? = some (k : ℚ) := by
    rw [Binary64.toRat?_ofInt (hk.trans (by decide)), Binary64.nearest_intCast hk]
  have hsmall : |(n / d : ℚ)| ≤ 2 ^ 53 := by
    have hone : (1 : ℚ) ≤ d := by exact_mod_cast hd
    rw [abs_div, abs_of_pos hpos]
    exact (div_le_self (abs_nonneg _) hone).trans (by exact_mod_cast hn)
  have hmultiple := isMultipleOf_iff_isTolerated (hkept hn) (hkept (by rwa [abs_of_pos hd]))
    hpos hsmall
  have hrange : schema.isInRange (.ofInt n) = true :=
    (isInRange_ofInt hschema.type_eq hschema.format_ne (by omega) (hn.trans (by decide))).mpr
      (by omega)
  rw [Components.accepts_of_isEnd hschema.isEnd hschema.discriminator_eq
    (fun hexempt => Json.noConfusion hexempt.1)]
  simp only [acceptsType, hschema.type_eq, acceptsNumber, numberOf?_integer (hn.trans (by decide)),
    hschema.minimum_eq, hschema.maximum_eq, hschema.multipleOf_eq, Option.any_none, Option.all_some,
    hrange, Bool.not_false, Bool.true_and, Bool.and_true, hmultiple]

/-- An integer is accepted as a multiple if its rounded quotient is within the tolerance of a
whole number.  So all multiples are accepted.  An integer that is no multiple is refused if
neither it nor the divisor is about a billion times as large as its distance from the nearest
multiple, in particular if both are less than a billion by a small margin, and accepted if one
of them is. -/
theorem accepts_multiples_within_tolerance (components : Components)
    (hschema : schema.AsksMultiples d) (hn : |n| ≤ 2 ^ 53) (hd : 1 ≤ d) (hd' : d ≤ 2 ^ 53) :
    (components.accepts (.number (.integer n)) schema = true ↔ IsTolerated (n / d)) ∧
      (d ∣ n → components.accepts (.number (.integer n)) schema = true) ∧
      (max |n| d ≤ (10 ^ 9 - 112) * distance n d →
        components.accepts (.number (.integer n)) schema = false) ∧
      ((10 ^ 9 + 112) * distance n d ≤ max |n| d →
        components.accepts (.number (.integer n)) schema = true) ∧
      (max |n| d ≤ 10 ^ 9 - 112 →
        (components.accepts (.number (.integer n)) schema = true ↔ d ∣ n)) := by
  have haccepts : components.accepts (.number (.integer n)) schema = true ↔ IsTolerated (n / d) :=
    accepts_iff_isTolerated hschema hn hd hd'
  have hnear (h : (10 ^ 9 + 112) * distance n d ≤ max |n| d) :
      components.accepts (.number (.integer n)) schema = true :=
    haccepts.mpr (isTolerated_div_of_near hd hd' h)
  have hfar (h : max |n| d ≤ (10 ^ 9 - 112) * distance n d) :
      components.accepts (.number (.integer n)) schema = false :=
    eq_false_of_ne_true (mt haccepts.mp (not_isTolerated_div_of_far hd hd' h))
  have hlarge : 1 ≤ max |n| d := hd.trans (le_max_right _ _)
  have hmultiple (h : d ∣ n) : components.accepts (.number (.integer n)) schema = true := by
    have hzero := mt (distance_pos_iff hd).mp (not_not.mpr h)
    exact hnear (by omega)
  refine ⟨haccepts, hmultiple, hfar, hnear, fun hsmall => ⟨?_, hmultiple⟩⟩
  intro haccepted
  by_contra hnot
  have hpositive := (distance_pos_iff hd).mpr hnot
  have hrefused := hfar (by omega)
  rw [haccepted] at hrefused
  cases hrefused

/-! ### Even numbers -/

def evenSchema : Schema where
  type := some .integer
  multipleOf := some (.ofInt 2)

theorem asksMultiples_evenSchema : evenSchema.AsksMultiples 2 where
  isEnd := ⟨rfl, rfl, rfl, rfl⟩
  discriminator_eq := rfl
  type_eq := rfl
  format_ne := by decide
  minimum_eq := rfl
  maximum_eq := rfl
  multipleOf_eq := rfl

theorem accepts_multiples_within_tolerance_evenSchema :
    evenSchema.AsksMultiples 2 ∧ |(999999887 : ℤ)| ≤ 2 ^ 53 ∧ (1 : ℤ) ≤ 2 ∧ (2 : ℤ) ≤ 2 ^ 53 ∧
      Components.accepts {} (.number (.integer 999999887)) evenSchema = false ∧
      Components.accepts {} (.number (.integer 1000000113)) evenSchema = true := by
  obtain ⟨-, -, hrefused, -⟩ := accepts_multiples_within_tolerance {}
    asksMultiples_evenSchema (n := 999999887) (by decide) (by decide) (by decide)
  obtain ⟨-, -, -, haccepted, -⟩ := accepts_multiples_within_tolerance {}
    asksMultiples_evenSchema (n := 1000000113) (by decide) (by decide) (by decide)
  exact ⟨asksMultiples_evenSchema, by decide, by decide, by decide, hrefused (by decide),
    haccepted (by decide)⟩

/-- An odd number of more than a billion is accepted. -/
theorem evenSchema_accepts_odd :
    evenSchema.AsksMultiples 2 ∧ |(1000000001 : ℤ)| ≤ 2 ^ 53 ∧ (1 : ℤ) ≤ 2 ∧ (2 : ℤ) ≤ 2 ^ 53 ∧
      ¬(Components.accepts {} (.number (.integer 1000000001)) evenSchema = true ↔
        (2 : ℤ) ∣ 1000000001) := by
  have haccepted : Components.accepts {} (.number (.integer 1000000001)) evenSchema = true := by
    decide +kernel
  have hodd : ¬(2 : ℤ) ∣ 1000000001 := by decide
  exact ⟨asksMultiples_evenSchema, by decide, by decide, by decide, fun h => hodd (h.mp haccepted)⟩

end Schema
end ApiContract
