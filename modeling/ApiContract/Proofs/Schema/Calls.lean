import ApiContract.Proofs.Schema.Rules

/-!
# Nested judgements

One step of the rules hands other schemas to a judge: the component that a discriminator
or a reference leads to, the members of a composition, and schemas for the values inside
the value.  `Components.Call` lists these judgements, also those that a step leaves
out because its verdict is reached before.  Between two judges an acceptance is lost only if
it is lost in one of them or in the count of a `oneOf`.
-/

namespace ApiContract

/-- How one judgement leads to another one. -/
inductive Link where
  /-- A discriminator dispatches to the component of this name. -/
  | dispatch (name : String)
  /-- A reference enters the component of this name. -/
  | reference (name : String)
  /-- A member of a composition is judged. -/
  | member
  /-- A value inside the value is judged. -/
  | inner
  deriving DecidableEq

/-- The members of the composition that decides. -/
def Keyword.members : Keyword → List Schema
  | .allOf members | .oneOf members | .anyOf members => members
  | .reference _ | .type => []

/-- Alternatives do not decide in a re-entry. -/
theorem Schema.isReentry_eq_false_of_oneOf {schema : Schema} {isReentry : Bool}
    {members : List Schema} (h : schema.keyword isReentry = .oneOf members) :
    isReentry = false := by
  cases isReentry with
  | false => rfl
  | true => cases href : schema.ref <;> cases hall : schema.allOf <;>
      simp [Schema.keyword, href, hall] at h

namespace Components

/-- The judgements that one step of the rules may ask for, with what leads to them. -/
inductive Call (components : Components) (value : Json) (schema : Schema)
    (dispatched : List String) : Link → Json → Schema → List String → Prop where
  | dispatch {name : String} {target : Schema} :
      ¬IsExempt value schema →
      components.dispatch schema value dispatched = .selected name target →
      Call components value schema dispatched (.dispatch name) value target
        (name :: dispatched)
  | reference {isReentry : Bool} {reference name : String} {target : Schema} :
      ¬IsExempt value schema →
      components.dispatch schema value dispatched = goesOn isReentry →
      schema.keyword isReentry = .reference reference →
      components.Resolves reference name target →
      Call components value schema dispatched (.reference name) value target dispatched
  | member {isReentry : Bool} {member : Schema} :
      ¬IsExempt value schema →
      components.dispatch schema value dispatched = goesOn isReentry →
      member ∈ (schema.keyword isReentry).members →
      Call components value schema dispatched .member value member dispatched
  | inner {isReentry : Bool} {inner : Json} {innerSchema : Schema} :
      ¬IsExempt value schema →
      components.dispatch schema value dispatched = goesOn isReentry →
      schema.keyword isReentry = .type →
      schema.Inner value inner innerSchema →
      Call components value schema dispatched .inner inner innerSchema []

variable {components : Components} {value : Json} {schema : Schema}
  {dispatched : List String} {judge judge' : Judge}

/-- The ways in which a step of the rules goes: the value is exempt, the discriminator
decides, or a keyword does. -/
theorem step_cases (components : Components) (value : Json) (schema : Schema)
    (dispatched : List String) :
    IsExempt value schema ∨
      ¬IsExempt value schema ∧
        ((∃ name target,
            components.dispatch schema value dispatched = .selected name target) ∨
          components.dispatch schema value dispatched = .refused ∨
          ∃ isReentry,
            components.dispatch schema value dispatched = goesOn isReentry) := by
  by_cases hexempt : IsExempt value schema
  · exact Or.inl hexempt
  · refine Or.inr ⟨hexempt, ?_⟩
    cases hdispatch : components.dispatch schema value dispatched with
    | selected name target => exact Or.inl ⟨name, target, rfl⟩
    | refused => exact Or.inr (Or.inl rfl)
    | absent => exact Or.inr (Or.inr ⟨false, rfl⟩)
    | reentered => exact Or.inr (Or.inr ⟨true, rfl⟩)

/-- Between two judges, an acceptance is lost in a nested judgement. -/
def LosesBelow (components : Components) (judge judge' : Judge) (value : Json)
    (schema : Schema) (dispatched : List String) : Prop :=
  ∃ link value' schema' dispatched',
    components.Call value schema dispatched link value' schema' dispatched' ∧
      judge value' schema' dispatched' = true ∧ judge' value' schema' dispatched' = false

/-- Between two judges, the count of a `oneOf` that decides grows from one to more. -/
def Undercounts (components : Components) (judge judge' : Judge) (value : Json)
    (schema : Schema) (dispatched : List String) : Prop :=
  ¬IsExempt value schema ∧
    components.dispatch schema value dispatched = .absent ∧
      ∃ members, schema.keyword false = .oneOf members ∧
        members.countP (fun member => judge value member dispatched) = 1 ∧
          2 ≤ members.countP fun member => judge' value member dispatched

theorem decideBy_lost {isReentry : Bool} (hlive : ¬IsExempt value schema)
    (hdispatch : components.dispatch schema value dispatched = goesOn isReentry)
    (haccepted : components.decideBy judge value schema dispatched
      (schema.keyword isReentry) = true)
    (hrefused : components.decideBy judge' value schema dispatched
      (schema.keyword isReentry) = false) :
    components.LosesBelow judge judge' value schema dispatched ∨
      components.Undercounts judge judge' value schema dispatched := by
  have hmember {member : Schema} (hmem : member ∈ (schema.keyword isReentry).members)
      (haccepted : judge value member dispatched = true)
      (hrefused : judge' value member dispatched = false) :
      components.LosesBelow judge judge' value schema dispatched :=
    ⟨_, _, _, _, .member hlive hdispatch hmem, haccepted, hrefused⟩
  generalize hkeyword : schema.keyword isReentry = keyword at haccepted hrefused hmember
  cases keyword with
  | reference reference =>
      simp only [decideBy, Option.any_eq_true] at haccepted
      obtain ⟨target, htarget, haccepted⟩ := haccepted
      obtain ⟨name, hresolves⟩ := schema?_eq_some_iff.mp htarget
      simp only [decideBy, htarget, Option.any_some] at hrefused
      exact Or.inl ⟨_, _, _, _, .reference hlive hdispatch hkeyword hresolves,
        haccepted, hrefused⟩
  | allOf members =>
      simp only [decideBy, List.all_eq_true] at haccepted
      simp only [decideBy, List.all_eq_false, Bool.not_eq_true] at hrefused
      obtain ⟨member, hmem, hrefused⟩ := hrefused
      exact Or.inl (hmember hmem (haccepted member hmem) hrefused)
  | oneOf members =>
      simp only [decideBy, beq_iff_eq] at haccepted
      simp only [decideBy, beq_eq_false_iff_ne] at hrefused
      have hreentry : isReentry = false := Schema.isReentry_eq_false_of_oneOf hkeyword
      subst hreentry
      rcases Nat.lt_or_gt_of_ne hrefused with hnone | hmany
      · have hzero := List.countP_eq_zero.mp (Nat.lt_one_iff.mp hnone)
        have hone : 0 < members.countP fun member => judge value member dispatched := by
          omega
        obtain ⟨member, hmem, haccepted⟩ := List.countP_pos_iff.mp hone
        exact Or.inl (hmember hmem haccepted (Bool.not_eq_true _ ▸ hzero member hmem))
      · exact Or.inr ⟨hlive, hdispatch, members, hkeyword, haccepted, hmany⟩
  | anyOf members =>
      simp only [decideBy, List.any_eq_true] at haccepted
      simp only [decideBy, List.any_eq_false, Bool.not_eq_true] at hrefused
      obtain ⟨member, hmem, haccepted⟩ := haccepted
      exact Or.inl (hmember hmem haccepted (hrefused member hmem))
  | type =>
      obtain ⟨hconforms, haccepted⟩ := Schema.acceptsType_iff.mp haccepted
      simp only [decideBy, ← Bool.not_eq_true, Schema.acceptsType_iff] at hrefused
      push Not at hrefused
      obtain ⟨inner, innerSchema, hinner, hrefused⟩ := hrefused hconforms
      exact Or.inl ⟨_, _, _, _, .inner hlive hdispatch hkeyword hinner,
        haccepted inner innerSchema hinner, by simpa using hrefused⟩

/-- An acceptance that a step loses between two judges is lost in a nested judgement or
by the count of its `oneOf`. -/
theorem step_lost
    (haccepted : components.step judge value schema dispatched = true)
    (hrefused : components.step judge' value schema dispatched = false) :
    components.LosesBelow judge judge' value schema dispatched ∨
      components.Undercounts judge judge' value schema dispatched := by
  rcases step_cases components value schema dispatched with
    hexempt | ⟨hlive, ⟨name, target, hdispatch⟩ | hdispatch | ⟨isReentry, hdispatch⟩⟩
  · simp [step_of_exempt hexempt] at hrefused
  · rw [step_of_selected hlive hdispatch] at haccepted hrefused
    exact Or.inl ⟨_, _, _, _, .dispatch hlive hdispatch, haccepted, hrefused⟩
  · simp [step_of_refused hlive hdispatch] at haccepted
  · rw [step_of_goesOn hlive hdispatch] at haccepted hrefused
    exact decideBy_lost hlive hdispatch haccepted hrefused

/-- A `oneOf` whose count grows beyond one loses its acceptance. -/
theorem Undercounts.step_eq (h : components.Undercounts judge judge' value schema dispatched) :
    components.step judge value schema dispatched = true ∧
      components.step judge' value schema dispatched = false := by
  obtain ⟨hlive, hdispatch, members, hkeyword, hone, hmany⟩ := h
  have hgoesOn : components.dispatch schema value dispatched = goesOn false := hdispatch
  rw [step_of_goesOn hlive hgoesOn, step_of_goesOn hlive hgoesOn, hkeyword]
  simp only [decideBy, beq_iff_eq, beq_eq_false_iff_ne]
  exact ⟨hone, by omega⟩

end Components
end ApiContract
