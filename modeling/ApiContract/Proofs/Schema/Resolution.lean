import ApiContract.Schema.Check
import Mathlib.Data.List.TakeWhile
import Mathlib.Data.Set.Insert

/-!
# Resolving references and selections

A reference names a component schema by its name, either alone or after the start of
references to schemas.  This module says so as a relation and shows that the lookup of
`Components.schema?` finds exactly what the relation names, that the name which cycle
detection reads off a reference is the same one, and that discriminators select and
re-enter as their rules say.
-/

namespace ApiContract
namespace Components

variable {components : Components}

/-! ## References -/

/-- A reference names a declared component schema. -/
structure Resolves (components : Components) (reference name : String)
    (schema : Schema) : Prop where
  simple : '/' ∉ name.toList
  form : reference = schemaPrefix ++ name ∨ reference = name
  declared : components.schemas.lookup name = some schema

theorem nameAfter?_eq_some_iff {start reference name : String} :
    nameAfter? start reference = some name ↔ reference = start ++ name := by
  constructor
  · intro h
    obtain ⟨rest, hrest, rfl⟩ := Option.map_eq_some_iff.mp h
    apply String.toList_inj.mp
    simpa using dropStart?_eq_some_iff.mp hrest
  · rintro rfl
    apply Option.map_eq_some_iff.mpr
    exact ⟨name.toList, dropStart?_eq_some_iff.mpr (by simp), by simp⟩

theorem slash_mem_schemaPrefix_append (name : String) :
    '/' ∈ (schemaPrefix ++ name).toList := by
  simp [schemaPrefix]

/-- The lookup finds exactly the component that a reference names. -/
theorem schema?_eq_some_iff {reference : String} {schema : Schema} :
    components.schema? reference = some schema ↔
      ∃ name, components.Resolves reference name schema := by
  cases hname : nameAfter? schemaPrefix reference with
  | none =>
      have hbare : components.schema? reference =
          if reference.toList.contains '/' then none
          else components.schemas.lookup reference := by
        simp [schema?, hname]
      rw [hbare]
      constructor
      · intro h
        obtain ⟨hsimple, hdeclared⟩ := Option.ite_none_left_eq_some.mp h
        exact ⟨reference, by simpa using hsimple, Or.inr rfl, hdeclared⟩
      · rintro ⟨name, hsimple, rfl | rfl, hdeclared⟩
        · simp [nameAfter?_eq_some_iff.mpr rfl] at hname
        · simpa [hsimple] using hdeclared
  | some rest =>
      obtain rfl := nameAfter?_eq_some_iff.mp hname
      have hrest : components.schema? (schemaPrefix ++ rest) =
          if rest.toList.contains '/' then none
          else components.schemas.lookup rest := by
        simp [schema?, hname]
      rw [hrest]
      constructor
      · intro h
        obtain ⟨hsimple, hdeclared⟩ := Option.ite_none_left_eq_some.mp h
        exact ⟨rest, by simpa using hsimple, Or.inl rfl, hdeclared⟩
      · rintro ⟨name, hsimple, hform | rfl, hdeclared⟩
        · obtain rfl := (String.append_right_inj _).mp hform
          simpa [hsimple] using hdeclared
        · exact absurd (slash_mem_schemaPrefix_append rest) hsimple

theorem schema?_eq_none_iff {reference : String} :
    components.schema? reference = none ↔
      ∀ name schema, ¬components.Resolves reference name schema := by
  rw [Option.eq_none_iff_forall_ne_some]
  constructor
  · intro h name schema hresolves
    exact h schema (schema?_eq_some_iff.mpr ⟨name, hresolves⟩)
  · intro h schema hschema
    obtain ⟨name, hresolves⟩ := schema?_eq_some_iff.mp hschema
    exact h name schema hresolves

/-- The last segment of a reference that is resolved is the name of the component. -/
theorem Resolves.refName_eq {reference name : String} {schema : Schema}
    (h : components.Resolves reference name schema) :
    refName reference = name := by
  have hsegment : ∀ c ∈ name.toList.reverse, decide (c ≠ '/') = true := by
    intro c hc
    have hne : c ≠ '/' := by
      rintro rfl
      exact h.simple (List.mem_reverse.mp hc)
    simpa using hne
  have htake : reference.toList.reverse.takeWhile (· ≠ '/') = name.toList.reverse := by
    rcases h.form with rfl | rfl
    · rw [String.toList_append, List.reverse_append,
        List.takeWhile_append_of_pos hsegment]
      simp [schemaPrefix]
    · exact List.takeWhile_eq_self_iff.mpr hsegment
  rw [refName, htake, List.reverse_reverse, String.ofList_toList]

end Components

/-! ## Selections -/

/-- The reference that a discriminator takes a text for.  Without a mapping the text is
the name of a component; a mapping is exhaustive. -/
def Discriminator.reference? (discriminator : Discriminator) (selector : String) :
    Option String :=
  if discriminator.mapping = [] then some (Components.schemaPrefix ++ selector)
  else discriminator.mapping.lookup selector

namespace Components

variable {components : Components}

/-- An object selects the component to which the text of its discriminator property
refers. -/
inductive Selects (components : Components) (discriminator : Discriminator) :
    Json → String → Schema → Prop where
  | intro {members : List (String × Json)} {selector reference name : String}
      {schema : Schema} :
      members.lookup discriminator.propertyName = some (.string selector) →
      discriminator.reference? selector = some reference →
      components.Resolves reference name schema →
      Selects components discriminator (.object members) name schema

theorem string?_eq_some_iff {value : Json} {text : String} :
    value.string? = some text ↔ value = .string text := by
  cases value <;> simp [Json.string?]

theorem get?_eq_some_iff {value member : Json} {key : String} :
    value.get? key = some member ↔
      ∃ members, value = .object members ∧ members.lookup key = some member := by
  cases value <;> simp [Json.get?]

theorem selected?_eq (discriminator : Discriminator) (value : Json) :
    components.selected? discriminator value =
      (value.get? discriminator.propertyName).bind fun member =>
        member.string?.bind fun selector =>
          (discriminator.reference? selector).bind fun reference =>
            (components.schema? reference).map fun schema =>
              (refName reference, schema) := by
  simp only [selected?, bind, pure]
  congr 1
  funext member
  congr 1
  funext selector
  simp only [Discriminator.reference?, Option.map_eq_bind, List.isEmpty_iff]
  split
  · rfl
  · rfl

theorem selected?_eq_some_iff {discriminator : Discriminator} {value : Json}
    {name : String} {schema : Schema} :
    components.selected? discriminator value = some (name, schema) ↔
      components.Selects discriminator value name schema := by
  rw [selected?_eq]
  constructor
  · intro h
    obtain ⟨member, hmember, hrest⟩ := Option.bind_eq_some_iff.mp h
    obtain ⟨selector, hselector, hrest⟩ := Option.bind_eq_some_iff.mp hrest
    obtain ⟨reference, hreference, hrest⟩ := Option.bind_eq_some_iff.mp hrest
    obtain ⟨target, htarget, hpair⟩ := Option.map_eq_some_iff.mp hrest
    obtain ⟨members, rfl, hlookup⟩ := get?_eq_some_iff.mp hmember
    obtain rfl := string?_eq_some_iff.mp hselector
    obtain ⟨found, hresolves⟩ := schema?_eq_some_iff.mp htarget
    cases hpair
    rw [hresolves.refName_eq]
    exact .intro hlookup hreference hresolves
  · rintro ⟨hlookup, hreference, hresolves⟩
    have htarget := schema?_eq_some_iff.mpr ⟨name, hresolves⟩
    simp [Json.get?, Json.string?, hlookup, hreference, htarget, hresolves.refName_eq]

/-- What a discriminator does with a value for which the components in `dispatched` have
been selected already. -/
inductive Dispatches (components : Components) (schema : Schema) (value : Json)
    (dispatched : Set String) : Dispatch → Prop where
  | absent :
      schema.discriminator = none →
      Dispatches components schema value dispatched .absent
  | selected {discriminator : Discriminator} {name : String} {target : Schema} :
      schema.discriminator = some discriminator →
      components.Selects discriminator value name target →
      name ∉ dispatched →
      Dispatches components schema value dispatched (.selected name target)
  | again {discriminator : Discriminator} {name : String} {target : Schema} :
      schema.discriminator = some discriminator →
      components.Selects discriminator value name target →
      name ∈ dispatched →
      Dispatches components schema value dispatched .reentered
  | unnamed {discriminator : Discriminator} :
      schema.discriminator = some discriminator →
      (∀ name target, ¬components.Selects discriminator value name target) →
      dispatched.Nonempty →
      Dispatches components schema value dispatched .reentered
  | refused {discriminator : Discriminator} :
      schema.discriminator = some discriminator →
      (∀ name target, ¬components.Selects discriminator value name target) →
      dispatched = ∅ →
      Dispatches components schema value dispatched .refused

theorem selected?_eq_none {discriminator : Discriminator} {value : Json}
    (h : ∀ name target, ¬components.Selects discriminator value name target) :
    components.selected? discriminator value = none := by
  rw [Option.eq_none_iff_forall_ne_some]
  rintro ⟨name, target⟩ hselected
  exact h name target (selected?_eq_some_iff.mp hselected)

/-- The outcome that the rules give a discriminator is the one that is computed from any
list of the selected names. -/
theorem Dispatches.dispatch_eq {schema : Schema} {value : Json} {dispatched : Set String}
    {outcome : Dispatch} (h : components.Dispatches schema value dispatched outcome)
    {names : List String} (hnames : ∀ name, name ∈ names ↔ name ∈ dispatched) :
    components.dispatch schema value names = outcome := by
  cases h with
  | absent hnone => simp [dispatch, hnone]
  | selected hsome hselects hfresh =>
      have hcontains := mt (hnames _).mp hfresh
      simp [dispatch, hsome, selected?_eq_some_iff.mpr hselects, hcontains]
  | again hsome hselects hold =>
      have hcontains := (hnames _).mpr hold
      simp [dispatch, hsome, selected?_eq_some_iff.mpr hselects, hcontains]
  | unnamed hsome hnone hnonempty =>
      obtain ⟨name, hname⟩ := hnonempty
      have hne : names ≠ [] := List.ne_nil_of_mem ((hnames name).mpr hname)
      simp [dispatch, hsome, selected?_eq_none hnone, hne]
  | refused hsome hnone hempty =>
      have hnil : names = [] := by
        apply List.eq_nil_iff_forall_not_mem.mpr
        intro name hname
        simpa [hempty] using (hnames name).mp hname
      simp [dispatch, hsome, selected?_eq_none hnone, hnil]

/-- Every computed outcome is one that the rules give. -/
theorem dispatches_dispatch (components : Components) (schema : Schema) (value : Json)
    (names : List String) :
    components.Dispatches schema value {name | name ∈ names}
      (components.dispatch schema value names) := by
  cases hdiscriminator : schema.discriminator with
  | none =>
      have hdispatch : components.dispatch schema value names = .absent := by
        simp [dispatch, hdiscriminator]
      rw [hdispatch]
      exact .absent hdiscriminator
  | some discriminator =>
      cases hselected : components.selected? discriminator value with
      | some selection =>
          obtain ⟨name, target⟩ := selection
          have hselects := selected?_eq_some_iff.mp hselected
          by_cases hmem : name ∈ names
          · have hdispatch : components.dispatch schema value names = .reentered := by
              simp [dispatch, hdiscriminator, hselected, hmem]
            rw [hdispatch]
            exact .again hdiscriminator hselects hmem
          · have hdispatch :
                components.dispatch schema value names = .selected name target := by
              simp [dispatch, hdiscriminator, hselected, hmem]
            rw [hdispatch]
            exact .selected hdiscriminator hselects hmem
      | none =>
          have hnone (name : String) (target : Schema) :
              ¬components.Selects discriminator value name target := by
            intro hselects
            simp [selected?_eq_some_iff.mpr hselects] at hselected
          by_cases hnil : names = []
          · have hdispatch : components.dispatch schema value names = .refused := by
              simp [dispatch, hdiscriminator, hselected, hnil]
            rw [hdispatch]
            exact .refused hdiscriminator hnone (by simp [hnil])
          · have hdispatch : components.dispatch schema value names = .reentered := by
              simp [dispatch, hdiscriminator, hselected, hnil]
            rw [hdispatch]
            exact .unnamed hdiscriminator hnone (List.exists_mem_of_ne_nil names hnil)

end Components
end ApiContract
