import ApiContract.Proofs.Schema.Calls
import ApiContract.Document.Cycles

/-!
# What lies below the depth bound

Schemas deeper than `maxDepth` are refused, each for itself.  Such a refusal loses
acceptances further up, but below a `oneOf` it may also make one: a second member that
would be accepted at a greater depth is not counted.

The main statement compares an evaluation with one that goes deeper.  No judgement in
the first accepts what it refuses in the second exactly if no `oneOf` that it comes to
counts one member where the deeper evaluation counts more.  Nested arrays with a
recursive schema show that this does happen.
-/

namespace ApiContract
namespace Components

variable {components : Components} {value : Json} {schema : Schema}

/-- Whether a value satisfies a schema, with schemas up to `bound` steps below it. -/
def acceptsUpTo (components : Components) (bound : ℕ) (value : Json) (schema : Schema) :
    Bool :=
  components.acceptsWithin (bound + 1) value schema []

/-- The judgements that may come up `depth` steps below that of a value by a schema. -/
inductive Nested (components : Components) (value : Json) (schema : Schema) :
    (depth : ℕ) → Json → Schema → (dispatched : List String) → Prop where
  | root : Nested components value schema 0 value schema []
  | call {depth : ℕ} {value' value'' : Json} {schema' schema'' : Schema}
      {dispatched' dispatched'' : List String} {link : Link} :
      Nested components value schema depth value' schema' dispatched' →
      components.Call value' schema' dispatched' link value'' schema'' dispatched'' →
      Nested components value schema (depth + 1) value'' schema'' dispatched''

/-- Every judgement in an evaluation up to `bound` steps keeps its acceptance when
`extra` more steps are allowed. -/
def KeepsAcceptances (components : Components) (bound extra : ℕ) (value : Json)
    (schema : Schema) : Prop :=
  ∀ depth value' schema' dispatched',
    components.Nested value schema depth value' schema' dispatched' →
      components.acceptsWithin (bound + 1 - depth) value' schema' dispatched' = true →
        components.acceptsWithin (bound + extra + 1 - depth) value' schema' dispatched' =
          true

/-- A `oneOf` in an evaluation up to `bound` steps counts one member, and more of them
when `extra` more steps are allowed. -/
def UndercountsWithin (components : Components) (bound extra : ℕ) (value : Json)
    (schema : Schema) : Prop :=
  ∃ depth value' schema' dispatched',
    components.Nested value schema depth value' schema' dispatched' ∧
      components.Undercounts (components.acceptsWithin (bound - depth))
        (components.acceptsWithin (bound + extra - depth)) value' schema' dispatched'

/-- A lost acceptance comes from a `oneOf` further down that counts too few.  The
induction is on the steps that are left, of which every nested judgement takes one. -/
theorem undercountsWithin_of_lost {bound extra left depth : ℕ} {value' : Json}
    {schema' : Schema} {dispatched' : List String} (hdepth : depth + left = bound + 1)
    (hnested : components.Nested value schema depth value' schema' dispatched')
    (haccepted : components.acceptsWithin left value' schema' dispatched' = true)
    (hrefused :
      components.acceptsWithin (left + extra) value' schema' dispatched' = false) :
    components.UndercountsWithin bound extra value schema := by
  induction left generalizing depth value' schema' dispatched' with
  | zero => simp [acceptsWithin] at haccepted
  | succ left ih =>
      rw [Nat.succ_add] at hrefused
      rcases step_lost haccepted hrefused with hbelow | hcount
      · obtain ⟨link, value'', schema'', dispatched'', hcall, haccepted, hrefused⟩ := hbelow
        exact ih (by omega) (hnested.call hcall) haccepted hrefused
      · have hleft : left = bound - depth := by omega
        have hmore : left + extra = bound + extra - depth := by omega
        rw [hmore, hleft] at hcount
        exact ⟨depth, value', schema', dispatched', hnested, hcount⟩

theorem keepsAcceptances_of_not_undercountsWithin {bound extra : ℕ}
    (h : ¬components.UndercountsWithin bound extra value schema) :
    components.KeepsAcceptances bound extra value schema := by
  intro depth value' schema' dispatched' hnested haccepted
  by_contra hrefused
  have hle : depth ≤ bound + 1 := by
    by_contra hdeep
    have hzero : bound + 1 - depth = 0 := by omega
    simp [hzero, acceptsWithin] at haccepted
  have hmore : bound + extra + 1 - depth = bound + 1 - depth + extra := by omega
  rw [hmore, Bool.not_eq_true] at hrefused
  exact h (undercountsWithin_of_lost (by omega) hnested haccepted hrefused)

theorem not_undercountsWithin_of_keepsAcceptances {bound extra : ℕ}
    (h : components.KeepsAcceptances bound extra value schema) :
    ¬components.UndercountsWithin bound extra value schema := by
  rintro ⟨depth, value', schema', dispatched', hnested, hcount⟩
  have hlt : depth < bound := by
    by_contra hdeep
    have hzero : bound - depth = 0 := by omega
    obtain ⟨-, -, members, -, hone, -⟩ := hcount
    simp [hzero, acceptsWithin] at hone
  obtain ⟨haccepted, hrefused⟩ := hcount.step_eq
  have hleft : bound + 1 - depth = bound - depth + 1 := by omega
  have hmore : bound + extra + 1 - depth = bound + extra - depth + 1 := by omega
  have hkept := h depth value' schema' dispatched' hnested (by rw [hleft]; exact haccepted)
  rw [hmore] at hkept
  exact Bool.false_ne_true (hrefused.symm.trans hkept)

/-- The judgements in an evaluation keep all their acceptances when more steps are
allowed exactly if no `oneOf` in it counts too few, and then whatever the evaluation
accepts is accepted with any number of `extra` steps. -/
theorem acceptances_kept_iff (components : Components) (value : Json) (schema : Schema)
    (extra : ℕ) :
    (components.KeepsAcceptances maxDepth extra value schema ↔
        ¬components.UndercountsWithin maxDepth extra value schema) ∧
      (¬components.UndercountsWithin maxDepth extra value schema →
        components.accepts value schema = true →
          components.acceptsUpTo (maxDepth + extra) value schema = true) := by
  refine ⟨⟨not_undercountsWithin_of_keepsAcceptances,
    keepsAcceptances_of_not_undercountsWithin⟩, ?_⟩
  intro hcounts haccepted
  have hkept := keepsAcceptances_of_not_undercountsWithin hcounts
  exact hkept 0 value schema [] .root haccepted

/-! ## Nested arrays -/

/-- Arrays of arrays, described by a schema that refers to itself for the items. -/
def arrayTrees : Components where
  schemas := [("Tree",
    { type := some .array, items := some { ref := some "#/components/schemas/Tree" } })]

/-- A reference to the schema of arrays of arrays. -/
def arrayTree : Schema where
  ref := some "#/components/schemas/Tree"

/-- Either any array or an array of arrays. -/
def eitherArray : Schema where
  oneOf := some [{ type := some .array }, arrayTree]

/-- An array below `n` others. -/
def nestedArray : (n : ℕ) → Json
  | 0 => .array []
  | n + 1 => .array [nestedArray n]

theorem acceptsWithin_arrayTree (depth : ℕ) (items : List Json) :
    arrayTrees.acceptsWithin (depth + 2) (.array items) arrayTree [] =
      items.all fun item => arrayTrees.acceptsWithin depth item arrayTree [] := by
  rfl

/-- Every array takes one step for its schema and one for the reference to it. -/
theorem acceptsWithin_nestedArray (n depth : ℕ) :
    arrayTrees.acceptsWithin depth (nestedArray n) arrayTree [] =
      decide (2 * n + 2 ≤ depth) := by
  induction n generalizing depth with
  | zero =>
      match depth with
      | 0 => rfl
      | 1 => rfl
      | depth + 2 =>
          rw [nestedArray, acceptsWithin_arrayTree]
          simp
  | succ n ih =>
      match depth with
      | 0 => simp [acceptsWithin]
      | 1 =>
          have hshallow :
              arrayTrees.acceptsWithin 1 (nestedArray (n + 1)) arrayTree [] = false := by
            rfl
          simp [hshallow]
      | depth + 2 =>
          rw [nestedArray, acceptsWithin_arrayTree]
          simp only [List.all_cons, List.all_nil, Bool.and_true, ih, decide_eq_decide]
          omega

/-- An array of arrays is counted twice as soon as the depth reaches its end. -/
theorem acceptsUpTo_eitherArray (n bound : ℕ) :
    arrayTrees.acceptsUpTo (bound + 1) (nestedArray n) eitherArray =
      decide (bound + 1 < 2 * n + 2) := by
  have hany :
      arrayTrees.acceptsWithin (bound + 1) (nestedArray n) { type := some .array } [] =
        true := by
    cases n <;> rfl
  have hlive : ¬IsExempt (nestedArray n) eitherArray := by simp [IsExempt, eitherArray]
  have hdispatch :
      arrayTrees.dispatch eitherArray (nestedArray n) [] = goesOn false := by
    rfl
  have hcount : arrayTrees.acceptsUpTo (bound + 1) (nestedArray n) eitherArray =
      ([{ type := some .array }, arrayTree].countP (fun member =>
        arrayTrees.acceptsWithin (bound + 1) (nestedArray n) member []) == 1) :=
    step_of_goesOn hlive hdispatch
  rw [hcount]
  by_cases hdeep : 2 * n + 2 ≤ bound + 1
  · have hlt : ¬bound + 1 < 2 * n + 2 := by omega
    simp [hany, acceptsWithin_nestedArray, hdeep, hlt]
  · have hlt : bound + 1 < 2 * n + 2 := by omega
    simp [hany, acceptsWithin_nestedArray, hdeep, hlt]

theorem cycle?_arrayTrees : arrayTrees.cycle? = none := by
  have hsorted : arrayTrees.sortedNames = ["Tree"] := List.mergeSort_singleton _
  rw [cycle?, hsorted]
  rfl

/-- An array below seventy others is accepted, and refused as soon as evaluations may go
deeper. -/
theorem nestedArray_accepted_only_within_bound :
    arrayTrees.cycle? = none ∧
      arrayTrees.accepts (nestedArray 70) eitherArray = true ∧
        arrayTrees.acceptsUpTo (maxDepth + 72) (nestedArray 70) eitherArray = false := by
  refine ⟨cycle?_arrayTrees, ?_, ?_⟩
  · exact (acceptsUpTo_eitherArray 70 127).trans (by decide)
  · exact (acceptsUpTo_eitherArray 70 199).trans (by decide)

end Components
end ApiContract
