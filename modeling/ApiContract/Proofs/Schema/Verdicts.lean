import ApiContract.Proofs.Schema.Evaluation

/-!
# What verdicts rest on

The rules reach a verdict in one way only: the value is exempt, the discriminator refuses
it or selects a component, or one keyword decides.  `evaluates_succ_iff` says so, and
the theorems after it say which verdict was reached where the way is known.
-/

namespace ApiContract
namespace Components

variable {components : Components} {value : Json} {schema : Schema} {names : List String}
  {levels : ℕ} {verdict : Bool}

/-! ## One rule at a time -/

theorem setOf_mem_nil : {name : String | name ∈ ([] : List String)} = ∅ := by
  simp

theorem setOf_mem_cons (name : String) (names : List String) :
    {n | n ∈ name :: names} = insert name {n | n ∈ names} := by
  ext n
  simp

theorem Resolves.unique {reference name name' : String} {target target' : Schema}
    (h : components.Resolves reference name target)
    (h' : components.Resolves reference name' target') : target = target' := by
  have htarget := schema?_eq_some_iff.mpr ⟨name, h⟩
  exact Option.some.inj (htarget.symm.trans (schema?_eq_some_iff.mpr ⟨name', h'⟩))

theorem Dispatches.unique {outcome outcome' : Dispatch}
    (h : components.Dispatches schema value {name | name ∈ names} outcome)
    (h' : components.Dispatches schema value {name | name ∈ names} outcome') :
    outcome = outcome' :=
  (h.dispatch_eq fun _ => Iff.rfl).symm.trans (h'.dispatch_eq fun _ => Iff.rfl)

theorem Governs.unique {keyword keyword' : Keyword}
    (h : components.Governs value schema {name | name ∈ names} keyword)
    (h' : components.Governs value schema {name | name ∈ names} keyword') :
    keyword = keyword' := by
  obtain ⟨isReentry, -, hdispatches⟩ := h
  obtain ⟨isReentry', -, hdispatches'⟩ := h'
  have hsame := hdispatches.unique hdispatches'
  cases isReentry <;> cases isReentry' <;> simp_all [goesOn]

/-- The nested verdicts on which the verdict of a keyword rests. -/
def RestsOn (components : Components) (levels : ℕ) (value : Json) (schema : Schema)
    (dispatched : Set String) : Keyword → (verdict : Bool) → Prop
  | .reference reference, verdict =>
      (∃ name target, components.Resolves reference name target ∧
        components.Evaluates levels value target dispatched verdict) ∨
      verdict = false ∧ ∀ name target, ¬components.Resolves reference name target
  | .allOf members, true =>
      ∀ member ∈ members, components.Evaluates levels value member dispatched true
  | .allOf members, false =>
      ∃ member ∈ members, components.Evaluates levels value member dispatched false
  | .oneOf members, true =>
      ∃ before member after, members = before ++ member :: after ∧
        components.Evaluates levels value member dispatched true ∧
        ∀ other ∈ before ++ after, components.Evaluates levels value other dispatched false
  | .oneOf members, false =>
      (∀ member ∈ members, components.Evaluates levels value member dispatched false) ∨
      ∃ first second, [first, second].Sublist members ∧
        components.Evaluates levels value first dispatched true ∧
        components.Evaluates levels value second dispatched true
  | .anyOf members, true =>
      ∃ member ∈ members, components.Evaluates levels value member dispatched true
  | .anyOf members, false =>
      ∀ member ∈ members, components.Evaluates levels value member dispatched false
  | .type, true =>
      schema.Conforms value ∧ ∀ inner innerSchema, schema.Inner value inner innerSchema →
        components.Evaluates levels inner innerSchema ∅ true
  | .type, false =>
      ¬schema.Conforms value ∨ ∃ inner innerSchema, schema.Inner value inner innerSchema ∧
        components.Evaluates levels inner innerSchema ∅ false

theorem Evaluates.exists_eq_succ {dispatched : Set String}
    (h : components.Evaluates levels value schema dispatched verdict) :
    ∃ below, levels = below + 1 := by
  cases levels with
  | zero => cases h
  | succ below => exact ⟨below, rfl⟩

/-- A keyword that governs decides what its nested verdicts are for. -/
theorem RestsOn.evaluates {dispatched : Set String} {keyword : Keyword}
    (h : components.RestsOn levels value schema dispatched keyword verdict)
    (hgoverns : components.Governs value schema dispatched keyword) :
    components.Evaluates (levels + 1) value schema dispatched verdict := by
  cases keyword with
  | reference reference =>
      rcases h with ⟨name, target, hresolves, htarget⟩ | ⟨rfl, hnone⟩
      · exact .reference hgoverns hresolves htarget
      · exact .unresolved hgoverns hnone
  | allOf members =>
      cases verdict with
      | true => exact .allOfAll hgoverns h
      | false =>
          obtain ⟨member, hmem, hmember⟩ := h
          exact .allOfNot hgoverns hmem hmember
  | oneOf members =>
      cases verdict with
      | true =>
          obtain ⟨before, member, after, rfl, hmember, hothers⟩ := h
          exact .oneOfOne hgoverns hmember hothers
      | false =>
          rcases h with hnone | ⟨first, second, hsublist, hfirst, hsecond⟩
          · exact .oneOfNone hgoverns hnone
          · exact .oneOfMany hgoverns hsublist hfirst hsecond
  | anyOf members =>
      cases verdict with
      | true =>
          obtain ⟨member, hmem, hmember⟩ := h
          exact .anyOfSome hgoverns hmem hmember
      | false => exact .anyOfNone hgoverns h
  | type =>
      cases verdict with
      | true => exact .typeAll hgoverns h.1 h.2
      | false =>
          rcases h with hconforms | ⟨inner, innerSchema, hmem, hinner⟩
          · exact .typeNot hgoverns hconforms
          · exact .innerNot hgoverns hmem hinner

/-- The ways in which the rules reach a verdict: the value is exempt, the discriminator
refuses or selects, or a keyword decides. -/
theorem evaluates_succ_iff {dispatched : Set String} :
    components.Evaluates (levels + 1) value schema dispatched verdict ↔
      IsExempt value schema ∧ verdict = true ∨
      ¬IsExempt value schema ∧ components.Dispatches schema value dispatched .refused ∧
        verdict = false ∨
      (∃ name target, ¬IsExempt value schema ∧
        components.Dispatches schema value dispatched (.selected name target) ∧
        components.Evaluates levels value target (insert name dispatched) verdict) ∨
      ∃ keyword, components.Governs value schema dispatched keyword ∧
        components.RestsOn levels value schema dispatched keyword verdict := by
  constructor
  · intro h
    cases h with
    | exempt hexempt => exact .inl ⟨hexempt, rfl⟩
    | refused hlive hrefused => exact .inr (.inl ⟨hlive, hrefused, rfl⟩)
    | dispatch hlive hselected htarget =>
        exact .inr (.inr (.inl ⟨_, _, hlive, hselected, htarget⟩))
    | reference hgoverns hresolves htarget =>
        exact .inr (.inr (.inr ⟨_, hgoverns, .inl ⟨_, _, hresolves, htarget⟩⟩))
    | unresolved hgoverns hnone =>
        exact .inr (.inr (.inr ⟨_, hgoverns, .inr ⟨rfl, hnone⟩⟩))
    | allOfAll hgoverns hmembers => exact .inr (.inr (.inr ⟨_, hgoverns, hmembers⟩))
    | allOfNot hgoverns hmem hmember =>
        exact .inr (.inr (.inr ⟨_, hgoverns, _, hmem, hmember⟩))
    | oneOfOne hgoverns hmember hothers =>
        exact .inr (.inr (.inr ⟨_, hgoverns, _, _, _, rfl, hmember, hothers⟩))
    | oneOfNone hgoverns hmembers =>
        exact .inr (.inr (.inr ⟨_, hgoverns, .inl hmembers⟩))
    | oneOfMany hgoverns hsublist hfirst hsecond =>
        exact .inr (.inr (.inr ⟨_, hgoverns, .inr ⟨_, _, hsublist, hfirst, hsecond⟩⟩))
    | anyOfSome hgoverns hmem hmember =>
        exact .inr (.inr (.inr ⟨_, hgoverns, _, hmem, hmember⟩))
    | anyOfNone hgoverns hmembers => exact .inr (.inr (.inr ⟨_, hgoverns, hmembers⟩))
    | typeAll hgoverns hconforms hinner =>
        exact .inr (.inr (.inr ⟨_, hgoverns, hconforms, hinner⟩))
    | typeNot hgoverns hconforms =>
        exact .inr (.inr (.inr ⟨_, hgoverns, .inl hconforms⟩))
    | innerNot hgoverns hmem hinner =>
        exact .inr (.inr (.inr ⟨_, hgoverns, .inr ⟨_, _, hmem, hinner⟩⟩))
  · rintro (⟨hexempt, rfl⟩ | ⟨hlive, hrefused, rfl⟩ | ⟨name, target, hlive, hselected, htarget⟩ |
      ⟨keyword, hgoverns, hrests⟩)
    · exact .exempt hexempt
    · exact .refused hlive hrefused
    · exact .dispatch hlive hselected htarget
    · exact hrests.evaluates hgoverns

theorem Governs.not_dispatches {keyword : Keyword} {outcome : Dispatch}
    (h : components.Governs value schema {name | name ∈ names} keyword)
    (hoff : ∀ isReentry, outcome ≠ goesOn isReentry) :
    ¬components.Dispatches schema value {name | name ∈ names} outcome := by
  obtain ⟨isReentry, -, hdispatches⟩ := h
  intro hother
  exact hoff isReentry (hother.unique hdispatches)

/-- Where a keyword governs, the verdict is that of the keyword. -/
theorem Evaluates.restsOn {keyword : Keyword}
    (h : components.Evaluates (levels + 1) value schema {name | name ∈ names} verdict)
    (hgoverns : components.Governs value schema {name | name ∈ names} keyword) :
    components.RestsOn levels value schema {name | name ∈ names} keyword verdict := by
  have hoff (isReentry : Bool) : .refused ≠ goesOn isReentry := by
    cases isReentry <;> simp [goesOn]
  have hoff' (name : String) (target : Schema) (isReentry : Bool) :
      .selected name target ≠ goesOn isReentry := by
    cases isReentry <;> simp [goesOn]
  rcases evaluates_succ_iff.mp h with ⟨hexempt, -⟩ | ⟨-, hrefused, -⟩ |
    ⟨name, target, -, hselected, -⟩ | ⟨keyword', hgoverns', hrests⟩
  · obtain ⟨_, hlive, _⟩ := hgoverns
    exact absurd hexempt hlive
  · exact absurd hrefused (hgoverns.not_dispatches hoff)
  · exact absurd hselected (hgoverns.not_dispatches (hoff' name target))
  · rwa [hgoverns.unique hgoverns']

/-- Where a discriminator selects a component, the verdict is that of the component. -/
theorem Evaluates.of_selected {name : String} {target : Schema}
    (h : components.Evaluates (levels + 1) value schema {name | name ∈ names} verdict)
    (hlive : ¬IsExempt value schema)
    (hselected : components.Dispatches schema value {name | name ∈ names}
      (.selected name target)) :
    components.Evaluates levels value target {n | n ∈ name :: names} verdict := by
  rcases evaluates_succ_iff.mp h with ⟨hexempt, -⟩ | ⟨-, hrefused, -⟩ |
    ⟨name', target', -, hselected', htarget⟩ | ⟨keyword, hgoverns, -⟩
  · exact absurd hexempt hlive
  · cases hselected.unique hrefused
  · obtain ⟨rfl, rfl⟩ := Dispatch.selected.inj (hselected.unique hselected')
    rwa [setOf_mem_cons]
  · refine absurd hselected (hgoverns.not_dispatches ?_)
    intro isReentry
    cases isReentry <;> simp [goesOn]

end Components
end ApiContract
