import ApiContract.Proofs.Binary64.Integers
import ApiContract.Proofs.Schema.Rules

/-!
# Ranges of integers

A schema for integers compares their nearest binary64 numbers with its bounds.  Next to bounds
of 53 bits, and next to the largest integer of 64 bits, the nearest number is not the integer
itself; everywhere else the comparison is exact.
-/

namespace ApiContract

/-- The schema asks for integers of 64 bits between two bounds that may be absent, and puts no
other condition on numbers. -/
structure Schema.IsIntegerRange (schema : Schema) (least most : Option ℤ) : Prop where
  isEnd : schema.IsEnd
  discriminator_eq : schema.discriminator = none
  type_eq : schema.type = some .integer
  format_eq : schema.format = none ∨ schema.format = some .int64
  minimum_eq : schema.minimum = least.map Binary64.ofInt
  maximum_eq : schema.maximum = most.map Binary64.ofInt
  multipleOf_eq : schema.multipleOf = none
  least_small : ∀ bound, least = some bound → |bound| ≤ 2 ^ 53
  most_small : ∀ bound, most = some bound → |bound| ≤ 2 ^ 53

/-- The integer has at most 64 bits and lies between the bounds that are given. -/
structure LiesWithin (least most : Option ℤ) (n : ℤ) : Prop where
  lower : -2 ^ 63 ≤ n
  upper : n ≤ 2 ^ 63 - 1
  least_le : ∀ bound, least = some bound → bound ≤ n
  le_most : ∀ bound, most = some bound → n ≤ bound

/-- The integers whose nearest binary64 number lies on the other side of a bound. -/
inductive IsMisjudged (least most : Option ℤ) (n : ℤ) : Prop where
  /-- The nearest number is beyond 64 bits. -/
  | refused (hmost : most = none) (hlower : 2 ^ 63 - 512 ≤ n) (hupper : n < 2 ^ 63)
  /-- The nearest number is the least bound of 53 bits. -/
  | belowLeast (hleast : least = some (-2 ^ 53)) (hn : n = -2 ^ 53 - 1)
  /-- The nearest number is the greatest bound of 53 bits. -/
  | aboveMost (hmost : most = some (2 ^ 53)) (hn : n = 2 ^ 53 + 1)

namespace Schema

variable {schema : Schema} {n : ℤ}

theorem numberOf?_integer (hn : |n| ≤ 2 ^ 64) :
    numberOf? (.number (.integer n)) = some (.ofInt n) := by
  have hfinite : (Binary64.ofInt n).isFinite = true :=
    Binary64.isFinite_of_toRat? (Binary64.toRat?_ofInt hn)
  simp [numberOf?, Number.toBinary64, Option.filter, hfinite]

theorem isInRange_ofInt (htype : schema.type = some .integer)
    (hformat : schema.format ≠ some .int32) (hlower : -2 ^ 63 ≤ n) (hn : |n| ≤ 2 ^ 64) :
    schema.isInRange (.ofInt n) = true ↔ n < 2 ^ 63 - 512 := by
  have hwhole : (Binary64.ofInt n).isWhole = true := by
    obtain ⟨k, hk⟩ := Binary64.exists_nearest_intCast n
    exact Binary64.isWhole_of_toRat? (hk ▸ Binary64.toRat?_ofInt hn)
  have hleast : (Binary64.ofInt (-9223372036854775808)).le (.ofInt n) = true := by
    rw [Binary64.le_eq_decide (Binary64.toRat?_ofInt (by decide)) (Binary64.toRat?_ofInt hn)]
    exact decide_eq_true (Binary64.nearest_intCast_mono (by omega))
  rw [isInRange, if_pos htype, if_neg hformat, hwhole, hleast,
    Binary64.lt_eq_decide (Binary64.toRat?_ofInt hn) (Binary64.toRat?_ofInt (by decide))]
  simp only [Bool.true_and, decide_eq_true_eq, Binary64.nearest_lt_nearest_max_iff]

variable {components : Components} {least most : Option ℤ}

theorem IsIntegerRange.least_le (hschema : schema.IsIntegerRange least most) (hn : 2 ^ 53 ≤ n) :
    ∀ bound, least = some bound → bound ≤ n := by
  intro bound hbound
  have hsmall := abs_le.mp (hschema.least_small bound hbound)
  omega

theorem IsIntegerRange.le_most (hschema : schema.IsIntegerRange least most) (hn : n ≤ -2 ^ 53) :
    ∀ bound, most = some bound → n ≤ bound := by
  intro bound hbound
  have hsmall := abs_le.mp (hschema.most_small bound hbound)
  omega

/-- What a schema for integers accepts, with the integers that are next to its bounds. -/
theorem accepts_integer_iff (hschema : schema.IsIntegerRange least most)
    (hlower : -2 ^ 63 ≤ n) (hupper : n ≤ 2 ^ 64 - 1) :
    components.accepts (.number (.integer n)) schema = true ↔
      n < 2 ^ 63 - 512 ∧
        (∀ bound, least = some bound → bound ≤ n ∨ bound = -2 ^ 53 ∧ n = -2 ^ 53 - 1) ∧
        ∀ bound, most = some bound → n ≤ bound ∨ bound = 2 ^ 53 ∧ n = 2 ^ 53 + 1 := by
  have hn : |n| ≤ 2 ^ 64 := abs_le.mpr ⟨by omega, by omega⟩
  have hvalue := Binary64.toRat?_ofInt hn
  have hbound {bound : ℤ} (hsmall : |bound| ≤ 2 ^ 53) :
      (Binary64.ofInt bound).toRat? = some (bound : ℚ) := by
    rw [Binary64.toRat?_ofInt (hsmall.trans (by decide)), Binary64.nearest_intCast hsmall]
  have hminimum : (schema.minimum.any fun bound => (Binary64.ofInt n).lt bound) = false ↔
      ∀ bound, least = some bound → bound ≤ n ∨ bound = -2 ^ 53 ∧ n = -2 ^ 53 - 1 := by
    rw [hschema.minimum_eq]
    cases hleast : least with
    | none => simp
    | some bound =>
      have hsmall := hschema.least_small bound hleast
      simp only [Option.map_some, Option.any_some, Binary64.lt_eq_decide hvalue (hbound hsmall),
        decide_eq_false_iff_not, Binary64.nearest_intCast_lt_iff hsmall, Option.some_inj,
        forall_eq']
      omega
  have hmaximum : (schema.maximum.any fun bound => bound.lt (Binary64.ofInt n)) = false ↔
      ∀ bound, most = some bound → n ≤ bound ∨ bound = 2 ^ 53 ∧ n = 2 ^ 53 + 1 := by
    rw [hschema.maximum_eq]
    cases hmost : most with
    | none => simp
    | some bound =>
      have hsmall := hschema.most_small bound hmost
      simp only [Option.map_some, Option.any_some, Binary64.lt_eq_decide (hbound hsmall) hvalue,
        decide_eq_false_iff_not, Binary64.lt_nearest_intCast_iff hsmall, Option.some_inj,
        forall_eq']
      omega
  have hformat : schema.format ≠ some .int32 := by
    obtain hnone | hwide := hschema.format_eq
    · simp [hnone]
    · simp [hwide]
  have hrange := isInRange_ofInt hschema.type_eq hformat hlower hn
  rw [Components.accepts_of_isEnd hschema.isEnd hschema.discriminator_eq
    (fun hexempt => Json.noConfusion hexempt.1)]
  simp only [acceptsType, hschema.type_eq, acceptsNumber, numberOf?_integer hn,
    hschema.multipleOf_eq, Option.all_none, Bool.and_true, Bool.and_eq_true, Bool.not_eq_true',
    hminimum, hmaximum, hrange]
  tauto

/-- A schema for integers accepts exactly the integers within its bounds, except where rounding
misjudges them. -/
theorem accepts_iff_liesWithin_iff (hschema : schema.IsIntegerRange least most)
    (hlower : -2 ^ 63 ≤ n) (hupper : n ≤ 2 ^ 64 - 1) :
    (components.accepts (.number (.integer n)) schema = true ↔ LiesWithin least most n) ↔
      ¬IsMisjudged least most n := by
  rw [accepts_integer_iff hschema hlower hupper]
  constructor
  · rintro hagree (⟨hmost, hlower', hupper'⟩ | ⟨hleast, hn⟩ | ⟨hmost, hn⟩)
    · have haccepted := hagree.mpr
        ⟨hlower, by omega, hschema.least_le (by omega), fun bound h => by simp [hmost] at h⟩
      omega
    · have hwithin := hagree.mp ⟨by omega, ?_, fun bound h => Or.inl ?_⟩
      · have hle := hwithin.least_le _ hleast
        omega
      · intro bound hbound
        rw [hleast, Option.some_inj] at hbound
        exact Or.inr ⟨hbound.symm, hn⟩
      · exact hschema.le_most (by omega) bound h
    · have hwithin := hagree.mp ⟨by omega, fun bound h => Or.inl ?_, ?_⟩
      · have hle := hwithin.le_most _ hmost
        omega
      · exact hschema.least_le (by omega) bound h
      · intro bound hbound
        rw [hmost, Option.some_inj] at hbound
        exact Or.inr ⟨hbound.symm, hn⟩
  · intro hjudged
    constructor
    · rintro ⟨hsmall, hleast, hmost⟩
      refine ⟨hlower, by omega, ?_, ?_⟩
      · intro bound hbound
        obtain hle | ⟨rfl, hn⟩ := hleast bound hbound
        · exact hle
        · exact absurd (.belowLeast hbound hn) hjudged
      · intro bound hbound
        obtain hle | ⟨rfl, hn⟩ := hmost bound hbound
        · exact hle
        · exact absurd (.aboveMost hbound hn) hjudged
    · rintro ⟨-, hsmall, hleast, hmost⟩
      refine ⟨?_, fun bound h => Or.inl (hleast bound h), fun bound h => Or.inl (hmost bound h)⟩
      by_contra hlarge
      cases hbound : most with
      | none => exact hjudged (.refused hbound (by omega) (by omega))
      | some bound =>
        have hle := hmost bound hbound
        have hsmall' := abs_le.mp (hschema.most_small bound hbound)
        omega

/-- Integers of 64 bits, from the least one of 53 bits. -/
def longSchema : Schema where
  type := some .integer
  format := some .int64
  minimum := some (.ofInt (-2 ^ 53))

theorem isIntegerRange_longSchema : longSchema.IsIntegerRange (some (-2 ^ 53)) none where
  isEnd := ⟨rfl, rfl, rfl, rfl⟩
  discriminator_eq := rfl
  type_eq := rfl
  format_eq := Or.inr rfl
  minimum_eq := rfl
  maximum_eq := rfl
  multipleOf_eq := rfl
  least_small := by
    rintro bound ⟨⟩
    decide
  most_small := by
    rintro bound ⟨⟩

theorem accepts_iff_liesWithin_iff_longSchema :
    longSchema.IsIntegerRange (some (-2 ^ 53)) none ∧
      (-2 ^ 63 : ℤ) ≤ 2 ^ 63 - 513 ∧ (2 ^ 63 - 513 : ℤ) ≤ 2 ^ 64 - 1 ∧
      ((Components.accepts {} (.number (.integer (2 ^ 63 - 513))) longSchema = true ↔
          LiesWithin (some (-2 ^ 53)) none (2 ^ 63 - 513)) ↔
        ¬IsMisjudged (some (-2 ^ 53)) none (2 ^ 63 - 513)) ∧
      Components.accepts {} (.number (.integer (2 ^ 63 - 513))) longSchema = true :=
  ⟨isIntegerRange_longSchema, by decide, by decide,
    accepts_iff_liesWithin_iff isIntegerRange_longSchema (by decide) (by decide),
    by decide +kernel⟩

/-- The largest integer of 64 bits is refused, and the one before the least bound accepted. -/
theorem longSchema_misjudges :
    longSchema.IsIntegerRange (some (-2 ^ 53)) none ∧
      (LiesWithin (some (-2 ^ 53)) none (2 ^ 63 - 1) ∧
        Components.accepts {} (.number (.integer (2 ^ 63 - 1))) longSchema = false) ∧
      ¬LiesWithin (some (-2 ^ 53)) none (-2 ^ 53 - 1) ∧
        Components.accepts {} (.number (.integer (-2 ^ 53 - 1))) longSchema = true := by
  refine ⟨isIntegerRange_longSchema, ⟨⟨by decide, by decide, ?_, ?_⟩, by decide +kernel⟩, ?_,
    by decide +kernel⟩
  · rintro bound ⟨⟩
    decide
  · rintro bound ⟨⟩
  · intro hwithin
    exact absurd (hwithin.least_le _ rfl) (by decide)

end Schema
end ApiContract
