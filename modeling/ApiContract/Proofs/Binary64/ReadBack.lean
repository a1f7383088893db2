import ApiContract.Proofs.Binary64.Shortest
import Mathlib.Data.List.DropRight

/-!
# Reading the text of a number

The text of a finite number is read as the number.  Each of its three forms, with leading
zeros, with a point and with an exponent, writes the digits of the shortest decimal at their
place.
-/

namespace ApiContract

/-! ## Digits -/

namespace Ascii

theorem isDigit_eq (c : Char) : isDigit c = c.isDigit := rfl

theorem decimal_eq (digits : List Char) : decimal digits = Nat.ofDigitChars 10 digits 0 := by
  rw [decimal, Nat.ofDigitChars_eq_foldl]
  congr 1
  funext n c
  rw [Nat.mul_comm]
  rfl

theorem decimal_append_zeros (digits : List Char) (n : ℕ) :
    decimal (digits ++ List.replicate n '0') = decimal digits * 10 ^ n := by
  rw [decimal_eq, decimal_eq, Nat.ofDigitChars_append, Nat.ofDigitChars_replicate_zero,
    Nat.mul_comm]

theorem decimal_zeros_append (n : ℕ) (digits : List Char) :
    decimal (List.replicate n '0' ++ digits) = decimal digits := by
  rw [decimal_eq, decimal_eq, Nat.ofDigitChars_append, Nat.ofDigitChars_replicate_zero,
    Nat.mul_zero]

theorem decimal_toDigits (n : ℕ) : decimal (Nat.toDigits 10 n) = n := by
  rw [decimal_eq, Nat.ofDigitChars_ten_toDigits]

theorem isDigit_of_mem_toDigits {n : ℕ} {c : Char} (h : c ∈ Nat.toDigits 10 n) :
    isDigit c = true :=
  (isDigit_eq c).trans (Nat.isDigit_of_mem_toDigits (by decide) (by decide) h)

theorem toLower_of_isDigit {c : Char} (h : isDigit c = true) : c.toLower = c := by
  simp only [isDigit, Bool.and_eq_true, decide_eq_true_eq] at h
  have hupper : ¬(c.val ≥ 'A'.val ∧ c.val ≤ 'Z'.val) := by grind [Char.le_def]
  exact dif_neg hupper

end Ascii

namespace Binary64

/-- The number with these digits, of which the first stands at the place. -/
def valueAt (digits : List Char) (place : ℤ) : ℚ :=
  Ascii.decimal digits * 10 ^ (place + 1 - digits.length)

theorem ten_zpow_add (a b : ℤ) : (10 : ℚ) ^ (a + b) = 10 ^ a * 10 ^ b :=
  zpow_add₀ (by norm_num) a b

/-- Without the zeros at the end, zeros are all that is missing. -/
theorem exists_zeros (digits : List Char) :
    ∃ zeros, digits = (digits.reverse.dropWhile (· = '0')).reverse ++ List.replicate zeros '0' := by
  have hzeros : digits.rtakeWhile (· = '0') =
      List.replicate (digits.rtakeWhile (· = '0')).length '0' :=
    List.eq_replicate_of_mem fun c hc => by simpa using List.mem_rtakeWhile_imp hc
  refine ⟨(digits.rtakeWhile (· = '0')).length, ?_⟩
  rw [← hzeros]
  exact List.rdropWhile_append_rtakeWhile.symm

/-- The digits of a decimal, without the zeros at their end, stand where it has them. -/
theorem scientific_spec {d : Decimal} (hd : d.digits ≠ 0) :
    d.scientific.1 ≠ [] ∧ (∀ c ∈ d.scientific.1, Ascii.isDigit c = true) ∧
      valueAt d.scientific.1 d.scientific.2 = d.value := by
  obtain ⟨zeros, hsplit⟩ := exists_zeros (Nat.toDigits 10 d.digits)
  have hvalue := Ascii.decimal_toDigits d.digits
  have hdigits : ∀ c ∈ Nat.toDigits 10 d.digits, Ascii.isDigit c = true :=
    fun c hc => Ascii.isDigit_of_mem_toDigits hc
  simp only [Decimal.scientific]
  generalize ((Nat.toDigits 10 d.digits).reverse.dropWhile (· = '0')).reverse = kept at *
  rw [hsplit] at hvalue hdigits ⊢
  rw [Ascii.decimal_append_zeros] at hvalue
  have hne : kept ≠ [] := by
    rintro rfl
    exact hd (hvalue.symm.trans (Nat.zero_mul _))
  have hnotEmpty : ¬kept.isEmpty = true := by simpa using hne
  rw [if_neg hnotEmpty]
  refine ⟨hne, fun c hc => hdigits c (List.mem_append_left _ hc), ?_⟩
  have hplace : d.exponent + ((kept ++ List.replicate zeros '0').length : ℤ) - 1 + 1 - kept.length =
      (zeros : ℤ) + d.exponent := by
    rw [List.length_append, List.length_replicate]
    push_cast
    ring
  rw [valueAt, hplace, ten_zpow_add, Decimal.value, ← hvalue, zpow_natCast]
  push_cast
  ring

/-! ## Decimals in the range -/

/-- A number lies between the powers of ten around its leading digit. -/
theorem bounds_of_toDigits {n : ℕ} (hn : n ≠ 0) :
    10 ^ ((Nat.toDigits 10 n).length - 1) ≤ n ∧ n < 10 ^ (Nat.toDigits 10 n).length := by
  have hten : 1 < 10 := by decide
  have hlength : 0 < (Nat.toDigits 10 n).length := Nat.length_toDigits_pos
  refine ⟨?_, (Nat.length_toDigits_le_iff hten hlength).mp le_rfl⟩
  by_contra hless
  obtain hone | hmore := Nat.eq_or_lt_of_le hlength
  · rw [← hone, Nat.sub_self, pow_zero] at hless
    omega
  · have hshort := (Nat.length_toDigits_le_iff hten (Nat.sub_pos_of_lt hmore)).mpr (not_le.mp hless)
    omega

theorem bounds_of_decimal {digits : ℕ} (hdigits : digits ≠ 0) (exponent : ℤ) :
    (10 : ℚ) ^ (exponent + (Nat.toDigits 10 digits).length - 1) ≤ digits * 10 ^ exponent ∧
      (digits : ℚ) * 10 ^ exponent < 10 ^ (exponent + (Nat.toDigits 10 digits).length) := by
  obtain ⟨hlower, hupper⟩ := bounds_of_toDigits hdigits
  have hlength : 0 < (Nat.toDigits 10 digits).length := Nat.length_toDigits_pos
  have hten := ten_zpow_pos exponent
  have hlower' : (10 : ℚ) ^ ((Nat.toDigits 10 digits).length - 1) ≤ digits := by
    exact_mod_cast hlower
  have hupper' : (digits : ℚ) < 10 ^ (Nat.toDigits 10 digits).length := by exact_mod_cast hupper
  have hplace : exponent + (Nat.toDigits 10 digits).length - 1 =
      ((Nat.toDigits 10 digits).length - 1 : ℕ) + exponent := by omega
  rw [hplace, add_comm exponent, ten_zpow_add, ten_zpow_add, zpow_natCast, zpow_natCast]
  exact ⟨mul_le_mul_of_nonneg_right hlower' hten.le, mul_lt_mul_of_pos_right hupper' hten⟩

theorem two_zpow_lt_ten_zpow {n : ℤ} (hn : 0 < n) : (2 : ℚ) ^ (3 * n) < 10 ^ n := by
  rw [zpow_mul]
  exact zpow_lt_zpow_left₀ hn (by norm_num) (by norm_num)

/-- The rational is in the range of the positive numbers. -/
structure InRange (x : ℚ) : Prop where
  lower : 2 ^ (-1075 : ℤ) ≤ x
  upper : x ≤ 2 ^ (1024 : ℤ)

theorem InRange.le_place {x : ℚ} {place : ℤ} (hx : InRange x) (h : x < 10 ^ place) :
    -400 ≤ place := by
  by_contra hless
  have htiny : (10 : ℚ) ^ place ≤ 10 ^ (-400 : ℤ) :=
    zpow_le_zpow_right₀ (by norm_num) (not_le.mp hless).le
  have hinverse : (10 : ℚ) ^ (-400 : ℤ) < 2 ^ (-(3 * 400) : ℤ) := by
    rw [zpow_neg, zpow_neg]
    exact inv_strictAnti₀ (two_zpow_pos _) (two_zpow_lt_ten_zpow (by decide))
  have hgap : (2 : ℚ) ^ (-(3 * 400) : ℤ) ≤ 2 ^ (-1075 : ℤ) := two_zpow_le (by decide)
  have hbelow : x < x := h.trans_le (htiny.trans (hinverse.le.trans (hgap.trans hx.lower)))
  exact lt_irrefl x hbelow

theorem InRange.place_le {x : ℚ} {place : ℤ} (hx : InRange x) (h : 10 ^ (place - 1) ≤ x) :
    place ≤ 400 := by
  by_contra hless
  have hhuge : (10 : ℚ) ^ (400 : ℤ) ≤ 10 ^ (place - 1) :=
    zpow_le_zpow_right₀ (by norm_num) (by omega)
  have hpower : (2 : ℚ) ^ (3 * 400 : ℤ) < 10 ^ (400 : ℤ) := two_zpow_lt_ten_zpow (by decide)
  have hgap : (2 : ℚ) ^ (1024 : ℤ) ≤ 2 ^ (3 * 400 : ℤ) := two_zpow_le (by decide)
  have habove : x < x := (hx.upper.trans hgap).trans_lt (hpower.trans_le (hhuge.trans h))
  exact lt_irrefl x habove

/-- A decimal in the range of the numbers is rounded. -/
theorem ofDecimal_eq_round {digits : ℕ} {exponent : ℤ} {x : ℚ} (negative : Bool)
    (hvalue : (digits : ℚ) * 10 ^ exponent = x) (hx : InRange x) :
    ofDecimal negative digits exponent = round negative x := by
  have hdigits : digits ≠ 0 := by
    rintro rfl
    rw [Nat.cast_zero, zero_mul] at hvalue
    exact ((two_zpow_pos _).trans_le hx.lower).ne hvalue
  obtain ⟨hlower, hupper⟩ := bounds_of_decimal hdigits exponent
  rw [hvalue] at hlower hupper
  have hleast := hx.le_place hupper
  have hmost := hx.place_le hlower
  rw [ofDecimal, if_neg hdigits]
  simp only [tenPow_eq, hvalue]
  rw [if_neg (by omega), if_neg (by omega)]

/-! ## Forms of text -/

variable {negative : Bool} {whole fraction digits tail : List Char} {place : ℤ} {x : ℚ}

theorem takeWhile_digits (hwhole : ∀ c ∈ whole, Ascii.isDigit c = true) {c : Char}
    (hc : Ascii.isDigit c = false) (tail : List Char) :
    (whole ++ c :: tail).takeWhile Ascii.isDigit = whole ∧
      (whole ++ c :: tail).dropWhile Ascii.isDigit = c :: tail := by
  rw [List.takeWhile_append_of_pos hwhole, List.dropWhile_append_of_pos hwhole]
  simp [hc]

/-- Digits with a point among them. -/
theorem readUnsigned?_point (hwhole : ∀ c ∈ whole, Ascii.isDigit c = true) (hne : whole ≠ [])
    (hfraction : ∀ c ∈ fraction, Ascii.isDigit c = true) :
    readUnsigned? negative (whole ++ '.' :: fraction) =
      some (ofDecimal negative (Ascii.decimal (whole ++ fraction)) (0 - fraction.length)) := by
  obtain ⟨htake, hdrop⟩ := takeWhile_digits hwhole (by decide : Ascii.isDigit '.' = false) fraction
  have hall : fraction.takeWhile Ascii.isDigit = fraction :=
    List.takeWhile_eq_self_iff.mpr hfraction
  have hnone : fraction.dropWhile Ascii.isDigit = [] := List.dropWhile_eq_nil_iff.mpr hfraction
  simp [readUnsigned?, htake, hdrop, hall, hnone, hne]

/-- A digit, more digits after a point if there are any, and an exponent. -/
theorem readUnsigned?_exponent (hwhole : ∀ c ∈ whole, Ascii.isDigit c = true) (hne : whole ≠ [])
    (hfraction : ∀ c ∈ fraction, Ascii.isDigit c = true) {exponent : ℤ}
    (hexponent : readExponent? tail = some exponent) :
    readUnsigned? negative
        (whole ++ (if fraction.isEmpty then [] else '.' :: fraction) ++ 'e' :: tail) =
      some (ofDecimal negative (Ascii.decimal (whole ++ fraction))
        (exponent - fraction.length)) := by
  have hletter : Ascii.isDigit 'e' = false := by decide
  cases fraction with
  | nil =>
    obtain ⟨htake, hdrop⟩ := takeWhile_digits hwhole hletter tail
    simp [readUnsigned?, htake, hdrop, hne, hexponent]
  | cons c rest =>
    obtain ⟨htake, hdrop⟩ := takeWhile_digits hwhole (by decide : Ascii.isDigit '.' = false)
      (c :: rest ++ 'e' :: tail)
    obtain ⟨hall, hrest⟩ := takeWhile_digits hfraction hletter tail
    rw [List.cons_append] at hall hrest htake hdrop
    simp [readUnsigned?, htake, hdrop, hall, hrest, hexponent]

/-- An exponent is read with its sign. -/
theorem readExponent?_toDigits (place : ℤ) :
    readExponent? ((if place < 0 then '-' else '+') :: Nat.toDigits 10 place.natAbs) =
      some place := by
  have hdigits : (Nat.toDigits 10 place.natAbs).all Ascii.isDigit = true :=
    List.all_eq_true.mpr fun c hc => Ascii.isDigit_of_mem_toDigits hc
  obtain hneg | hnonneg := lt_or_ge place 0
  · simp [readExponent?, hdigits, Ascii.decimal_toDigits, hneg, abs_of_neg hneg]
  · simp [readExponent?, hdigits, Ascii.decimal_toDigits, not_lt.mpr hnonneg,
      abs_of_nonneg hnonneg]

/-! ## Digits at a place -/

/-- The text of digits of which the first stands at the place. -/
def textAt (digits : List Char) (place : ℤ) : List Char :=
  if -5 ≤ place ∧ place ≤ 15 then
    if place < 0 then
      '0' :: '.' :: (List.replicate ((-place).toNat - 1) '0' ++ digits)
    else
      let whole := place.toNat + 1
      let padded := digits ++ List.replicate (whole - digits.length) '0'
      let fraction := padded.drop whole
      padded.take whole ++ '.' :: (if fraction.isEmpty then ['0'] else fraction)
  else
    let point := if digits.length = 1 then digits
      else digits.take 1 ++ '.' :: digits.drop 1
    let sign := if place < 0 then '-' else '+'
    point ++ 'e' :: sign :: Nat.toDigits 10 place.natAbs

theorem renderMagnitude_eq {m : ℕ} {exponent : ℤ} (hm : 0 < m) :
    renderMagnitude m exponent =
      textAt (shortest m exponent).scientific.1 (shortest m exponent).scientific.2 := by
  rw [renderMagnitude, if_neg hm.ne']
  rfl

theorem forall_mem_zeros (n : ℕ) : ∀ c ∈ List.replicate n '0', Ascii.isDigit c = true := by
  intro c hc
  obtain rfl := List.eq_of_mem_replicate hc
  rfl

/-- With its point, the text is read as the digits at their place. -/
theorem readUnsigned?_of_leadingZeros (hdigits : ∀ c ∈ digits, Ascii.isDigit c = true)
    (hplace : place < 0) (hrange : InRange (valueAt digits place)) :
    readUnsigned? negative ('0' :: '.' :: (List.replicate ((-place).toNat - 1) '0' ++ digits)) =
      some (round negative (valueAt digits place)) := by
  have hfraction : ∀ c ∈ List.replicate ((-place).toNat - 1) '0' ++ digits,
      Ascii.isDigit c = true :=
    List.forall_mem_append.mpr ⟨forall_mem_zeros _, hdigits⟩
  have hread : readUnsigned? negative (['0'] ++ '.' :: _) = _ :=
    readUnsigned?_point (forall_mem_zeros 1) (List.cons_ne_nil _ _) hfraction
  rw [List.singleton_append] at hread
  have hdecimal : Ascii.decimal ('0' :: (List.replicate ((-place).toNat - 1) '0' ++ digits)) =
      Ascii.decimal digits := by
    rw [← List.cons_append, ← List.replicate_succ, Ascii.decimal_zeros_append]
  rw [hread, ofDecimal_eq_round negative ?_ hrange]
  rw [List.singleton_append, hdecimal, valueAt]
  congr 2
  rw [List.length_append, List.length_replicate]
  omega

theorem readUnsigned?_of_point (hdigits : ∀ c ∈ digits, Ascii.isDigit c = true)
    (hne : digits ≠ []) (hplace : 0 ≤ place)
    (hrange : InRange (valueAt digits place)) :
    readUnsigned? negative
        ((digits ++ List.replicate (place.toNat + 1 - digits.length) '0').take (place.toNat + 1) ++
          '.' :: (if ((digits ++ List.replicate (place.toNat + 1 - digits.length) '0').drop
            (place.toNat + 1)).isEmpty then ['0'] else
              (digits ++ List.replicate (place.toNat + 1 - digits.length) '0').drop
                (place.toNat + 1))) =
      some (round negative (valueAt digits place)) := by
  have hlength := List.length_pos_of_ne_nil hne
  obtain hlong | hshort := lt_or_ge (place.toNat + 1) digits.length
  · -- digits stand on both sides of the point
    have hzeros : place.toNat + 1 - digits.length = 0 := by omega
    rw [hzeros, List.replicate_zero, List.append_nil]
    have hrest : ¬(digits.drop (place.toNat + 1)).isEmpty = true := by
      rw [List.isEmpty_iff, List.drop_eq_nil_iff]
      omega
    have hwhole : digits.take (place.toNat + 1) ≠ [] := by
      rw [Ne, List.take_eq_nil_iff]
      simp [hne]
    rw [if_neg hrest, readUnsigned?_point (fun c hc => hdigits c (List.mem_of_mem_take hc)) hwhole
      (fun c hc => hdigits c (List.mem_of_mem_drop hc)), List.take_append_drop,
      ofDecimal_eq_round negative ?_ hrange]
    rw [valueAt]
    congr 2
    rw [List.length_drop]
    omega
  · -- zeros fill the places up to the point
    have hpadded : (digits ++ List.replicate (place.toNat + 1 - digits.length) '0').length =
        place.toNat + 1 := by
      rw [List.length_append, List.length_replicate]
      omega
    have hall : ∀ c ∈ digits ++ List.replicate (place.toNat + 1 - digits.length) '0',
        Ascii.isDigit c = true :=
      List.forall_mem_append.mpr ⟨hdigits, forall_mem_zeros _⟩
    rw [List.take_of_length_le hpadded.le, List.drop_of_length_le hpadded.le]
    rw [if_pos List.isEmpty_nil, readUnsigned?_point hall (by simp [hne]) (by simp; rfl),
      ofDecimal_eq_round negative ?_ hrange]
    have hone : ['0'] = List.replicate 1 '0' := rfl
    rw [hone, List.append_assoc, ← List.replicate_add, Ascii.decimal_append_zeros, valueAt]
    have hexponent : place + 1 - (digits.length : ℤ) =
        (place.toNat + 1 - digits.length + 1 : ℕ) + (0 - (List.replicate 1 '0').length : ℤ) := by
      rw [List.length_replicate]
      omega
    rw [hexponent, ten_zpow_add, zpow_natCast]
    push_cast
    ring

theorem readUnsigned?_of_exponent (hdigits : ∀ c ∈ digits, Ascii.isDigit c = true)
    (hne : digits ≠ []) (hrange : InRange (valueAt digits place)) :
    readUnsigned? negative
        ((if digits.length = 1 then digits else digits.take 1 ++ '.' :: digits.drop 1) ++
          'e' :: (if place < 0 then '-' else '+') :: Nat.toDigits 10 place.natAbs) =
      some (round negative (valueAt digits place)) := by
  obtain ⟨first, rest, rfl⟩ := List.exists_cons_of_ne_nil hne
  have hpoint : (if (first :: rest).length = 1 then first :: rest
      else (first :: rest).take 1 ++ '.' :: (first :: rest).drop 1) =
      [first] ++ (if rest.isEmpty then [] else '.' :: rest) := by
    cases rest <;> simp
  rw [hpoint, readUnsigned?_exponent
    (fun c hc => hdigits c (List.mem_singleton.mp hc ▸ List.mem_cons_self)) (by simp)
    (fun c hc => hdigits c (List.mem_cons_of_mem _ hc)) (readExponent?_toDigits place),
    ofDecimal_eq_round negative ?_ hrange]
  rw [List.singleton_append, valueAt]
  congr 2
  rw [List.length_cons]
  push_cast
  ring

/-- The text of digits at a place is read as the number nearest to them. -/
theorem readUnsigned?_textAt (hdigits : ∀ c ∈ digits, Ascii.isDigit c = true)
    (hne : digits ≠ []) (hrange : InRange (valueAt digits place)) :
    readUnsigned? negative (textAt digits place) =
      some (round negative (valueAt digits place)) := by
  rw [textAt]
  split
  · split
    · rename_i hneg
      exact readUnsigned?_of_leadingZeros hdigits hneg hrange
    · rename_i hneg
      exact readUnsigned?_of_point hdigits hne (not_lt.mp hneg) hrange
  · exact readUnsigned?_of_exponent hdigits hne hrange

/-! ## Whole numbers and signs -/

theorem inRange_of_contains {m : ℕ} {exponent : ℤ} (hcanonical : Canonical m exponent)
    (hm : 0 < m) (hx : (interval m exponent).contains x = true) : InRange x := by
  obtain ⟨hsize, hleast, hmost, -⟩ := hcanonical
  obtain ⟨hlower, hnear, -⟩ := near_of_contains hx
  have hunit := two_zpow_pos exponent
  have hreach := reachBelow_le m exponent
  constructor
  · have hone : (1 : ℚ) ≤ m := by exact_mod_cast hm
    have hscaled := mul_le_mul_of_nonneg_right hone hunit.le
    have hhalf : (2 : ℚ) ^ exponent = 2 * 2 ^ (exponent - 1) := by
      rw [← two_zpow_add_one, sub_add_cancel]
    have hbelow : (2 : ℚ) ^ (exponent - 1) ≤ x := by linarith
    exact (two_zpow_le (by omega)).trans hbelow
  · have hsize' : (m : ℚ) + 1 ≤ 2 ^ 53 := by exact_mod_cast hsize
    have hscaled := mul_le_mul_of_nonneg_right hsize' hunit.le
    have hupper := (abs_le.mp hnear).1
    have habove : x ≤ 2 ^ 53 * 2 ^ exponent := by linarith
    rw [two_pow_mul_zpow] at habove
    exact habove.trans (two_zpow_le (by push_cast; omega))

theorem digits_shortest_ne_zero {m : ℕ} {exponent : ℤ} (hcanonical : Canonical m exponent)
    (hm : 0 < m) : (shortest m exponent).digits ≠ 0 := by
  intro hzero
  have hrange := inRange_of_contains hcanonical hm (contains_shortest hcanonical hm)
  have hpos := (two_zpow_pos _).trans_le hrange.lower
  rw [Decimal.value, hzero, Nat.cast_zero, zero_mul] at hpos
  exact lt_irrefl _ hpos

/-- The text of a number without its sign is read as the number. -/
theorem readUnsigned?_renderMagnitude {m : ℕ} {exponent : ℤ} (negative : Bool)
    (hcanonical : Canonical m exponent) :
    readUnsigned? negative (renderMagnitude m exponent) =
      some (finite negative m exponent hcanonical) := by
  obtain rfl | hm := Nat.eq_zero_or_pos m
  · obtain rfl : exponent = -1074 := by
      obtain ⟨-, -, -, hnormal | hleast⟩ := id hcanonical
      · exact absurd hnormal (by decide)
      · exact hleast
    rfl
  · have hcontains := contains_shortest hcanonical hm
    have hrange := inRange_of_contains hcanonical hm hcontains
    obtain ⟨hne, hdigits, hvalue⟩ := scientific_spec (digits_shortest_ne_zero hcanonical hm)
    rw [← hvalue] at hrange hcontains
    rw [renderMagnitude_eq hm, readUnsigned?_textAt hdigits hne hrange,
      round_of_contains negative hcanonical hm hcontains]

theorem exists_digit_of_textAt (hdigits : ∀ c ∈ digits, Ascii.isDigit c = true)
    (hne : digits ≠ []) : ∃ c tail, textAt digits place = c :: tail ∧ Ascii.isDigit c = true := by
  obtain ⟨first, rest, rfl⟩ := List.exists_cons_of_ne_nil hne
  have hfirst := hdigits first List.mem_cons_self
  rw [textAt]
  split
  · split
    · exact ⟨'0', _, rfl, rfl⟩
    · exact ⟨first, _, rfl, hfirst⟩
  · refine ⟨first, ?_⟩
    cases rest <;> simp [hfirst]

/-- The text of a number without its sign begins with a digit. -/
theorem exists_digit_of_renderMagnitude {m : ℕ} {exponent : ℤ}
    (hcanonical : Canonical m exponent) :
    ∃ c tail, renderMagnitude m exponent = c :: tail ∧ Ascii.isDigit c = true := by
  obtain rfl | hm := Nat.eq_zero_or_pos m
  · exact ⟨'0', ['.', '0'], rfl, rfl⟩
  · obtain ⟨hne, hdigits, -⟩ := scientific_spec (digits_shortest_ne_zero hcanonical hm)
    rw [renderMagnitude_eq hm]
    exact exists_digit_of_textAt hdigits hne

/-- No word is read where a digit comes first. -/
theorem ofText?_of_digit {c : Char} {tail : List Char} (hc : Ascii.isDigit c = true)
    (negative : Bool) :
    ofText? ((if negative then ['-'] else []) ++ c :: tail) =
      readUnsigned? negative (c :: tail) := by
  have hword (word : String) (hletter : word.toList.head?.any Ascii.isDigit = false) :
      String.ofList ((c :: tail).map Char.toLower) ≠ word := by
    rintro rfl
    rw [String.toList_ofList, List.map_cons, Ascii.toLower_of_isDigit hc, List.head?_cons,
      Option.any_some, hc] at hletter
    cases hletter
  have hinf := hword "inf" (by decide)
  have hinfinity := hword "infinity" (by decide)
  have hnan := hword "nan" (by decide)
  cases negative with
  | true =>
    rw [if_pos rfl, List.singleton_append, ofText?]
    simp only [hinf, hinfinity, hnan, decide_false, Bool.or_self, Bool.false_eq_true, if_false]
  | false =>
    have hminus : c ≠ '-' := by
      rintro rfl
      cases hc
    have hplus : c ≠ '+' := by
      rintro rfl
      cases hc
    rw [if_neg Bool.false_ne_true, List.nil_append, ofText?.eq_def]
    split
    rename_i negative rest hsign
    split at hsign
    · rename_i heq
      cases heq
      exact absurd rfl hminus
    · rename_i heq
      cases heq
      exact absurd rfl hplus
    · cases hsign
      simp only [hinf, hinfinity, hnan, decide_false, Bool.or_self, Bool.false_eq_true, if_false]

/-- The text of a finite number is read as the number. -/
theorem ofText?_of_render? {number : Binary64} {text : String}
    (h : number.render? = some text) : ofText? text.toList = some number := by
  cases number with
  | infinite => cases h
  | nan => cases h
  | finite negative m exponent hcanonical =>
    cases h
    obtain ⟨c, tail, htext, hc⟩ := exists_digit_of_renderMagnitude hcanonical
    have hread := readUnsigned?_renderMagnitude negative hcanonical
    rw [htext] at hread
    rw [String.toList_ofList, htext, ofText?_of_digit hc, hread]

/-! ## Characters -/

/-- The characters of which the texts of numbers consist. -/
def isNumberChar (c : Char) : Bool :=
  Ascii.isDigit c || c = '-' || c = '+' || c = '.' || c = 'e'

theorem isNumberChar_of_isDigit {c : Char} (h : Ascii.isDigit c = true) :
    isNumberChar c = true := by
  simp [isNumberChar, h]

theorem isNumberChar_textAt (hdigits : ∀ c ∈ digits, Ascii.isDigit c = true) :
    ∀ c ∈ textAt digits place, isNumberChar c = true := by
  have hpadded (n : ℕ) : ∀ c ∈ digits ++ List.replicate n '0', isNumberChar c = true :=
    fun c hc => isNumberChar_of_isDigit
      (List.forall_mem_append.mpr ⟨hdigits, forall_mem_zeros n⟩ c hc)
  have hzeros (n : ℕ) : ∀ c ∈ List.replicate n '0' ++ digits, isNumberChar c = true :=
    fun c hc => isNumberChar_of_isDigit
      (List.forall_mem_append.mpr ⟨forall_mem_zeros n, hdigits⟩ c hc)
  rw [textAt]
  split
  · split
    · exact List.forall_mem_cons.mpr ⟨rfl, List.forall_mem_cons.mpr ⟨rfl, hzeros _⟩⟩
    · refine List.forall_mem_append.mpr
        ⟨fun c hc => hpadded _ c (List.mem_of_mem_take hc), List.forall_mem_cons.mpr ⟨rfl, ?_⟩⟩
      split
      · exact List.forall_mem_singleton.mpr rfl
      · exact fun c hc => hpadded _ c (List.mem_of_mem_drop hc)
  · refine List.forall_mem_append.mpr ⟨?_, List.forall_mem_cons.mpr ⟨rfl, ?_⟩⟩
    · have hall : ∀ c ∈ digits, isNumberChar c = true :=
        fun c hc => isNumberChar_of_isDigit (hdigits c hc)
      split
      · exact hall
      · exact List.forall_mem_append.mpr ⟨fun c hc => hall c (List.mem_of_mem_take hc),
          List.forall_mem_cons.mpr ⟨rfl, fun c hc => hall c (List.mem_of_mem_drop hc)⟩⟩
    · refine List.forall_mem_cons.mpr ⟨by split <;> rfl, fun c hc => ?_⟩
      exact isNumberChar_of_isDigit (Ascii.isDigit_of_mem_toDigits hc)

/-- The text of a number has a point or an exponent. -/
theorem mark_mem_textAt (digits : List Char) (place : ℤ) :
    '.' ∈ textAt digits place ∨ 'e' ∈ textAt digits place := by
  rw [textAt]
  split
  · split
    · simp
    · simp
  · simp

theorem chars_of_renderMagnitude {m : ℕ} {exponent : ℤ} (hcanonical : Canonical m exponent) :
    (∀ c ∈ renderMagnitude m exponent, isNumberChar c = true) ∧
      ('.' ∈ renderMagnitude m exponent ∨ 'e' ∈ renderMagnitude m exponent) := by
  obtain rfl | hm := Nat.eq_zero_or_pos m
  · have hzero : renderMagnitude 0 exponent = ['0', '.', '0'] := rfl
    rw [hzero]
    exact ⟨by simp [isNumberChar, Ascii.isDigit], Or.inl (by simp)⟩
  · obtain ⟨-, hdigits, -⟩ := scientific_spec (digits_shortest_ne_zero hcanonical hm)
    rw [renderMagnitude_eq hm]
    exact ⟨isNumberChar_textAt hdigits, mark_mem_textAt _ _⟩

end Binary64
end ApiContract
