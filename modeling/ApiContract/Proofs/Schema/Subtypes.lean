import ApiContract.Proofs.Schema.Chains
import ApiContract.Proofs.Schema.Verdicts

/-!
# Subtypes and their base

A value that names its subtype can be judged by a base schema, whose discriminator
dispatches to the subtype, or by the subtype directly, which may meet the discriminator
of its base inside and dispatch to itself then.  The first judgement goes on with the
subtype selected, the second one without a selection.

In a hierarchy with one discriminator property both judgements agree.  A schema that is
met on the way is judged as it is with the subtype selected, or its discriminator hands
the value to the subtype; so the only verdicts that can come up are those of the first
judgement.
-/

namespace ApiContract

theorem Schema.oneOf_eq_of_keyword {schema : Schema} {isReentry : Bool}
    {members : List Schema} (h : schema.keyword isReentry = .oneOf members) :
    schema.oneOf = some members := by
  cases isReentry <;> cases href : schema.ref <;> cases hall : schema.allOf <;>
    cases hone : schema.oneOf <;> cases hany : schema.anyOf <;>
    simp_all [keyword]

namespace Components

/-! ## Hierarchies -/

/-- The schemas to which references and compositions lead on the same value. -/
inductive Reaches (components : Components) (start : Schema) : Schema → Prop where
  | start : Reaches components start start
  | reference {schema target : Schema} {reference name : String} :
      Reaches components start schema → schema.ref = some reference →
      components.Resolves reference name target →
      Reaches components start target
  | member {schema member : Schema} {members : List Schema} :
      Reaches components start schema →
      schema.allOf = some members ∨ schema.oneOf = some members ∨
        schema.anyOf = some members →
      member ∈ members →
      Reaches components start member

/-- The parts of a schema: those that it extends by reference or `allOf`, at any number
of levels, and itself. -/
inductive Extends (components : Components) (subtype : Schema) : Schema → Prop where
  | self : Extends components subtype subtype
  | reference {schema target : Schema} {reference name : String} :
      Extends components subtype schema → schema.ref = some reference →
      components.Resolves reference name target →
      Extends components subtype target
  | member {schema member : Schema} {members : List Schema} :
      Extends components subtype schema → schema.ref = none →
      schema.allOf = some members → member ∈ members →
      Extends components subtype member

/-- All discriminators that a subtype reaches take the same property for the name of a
component, and it reaches a `oneOf` only beside a discriminator. -/
structure IsHierarchy (components : Components) (propertyName : String)
    (subtype : Schema) : Prop where
  discriminator_eq : ∀ schema, components.Reaches subtype schema →
    ∀ discriminator, schema.discriminator = some discriminator →
      discriminator = { propertyName }
  discriminated : ∀ schema, components.Reaches subtype schema →
    schema.oneOf ≠ none → schema.discriminator ≠ none

/-- The rules reach a verdict within the depth of the evaluation. -/
def SettlesInDepth (components : Components) (value : Json) (schema : Schema) : Prop :=
  ∃ levels verdict, levels ≤ maxDepth + 1 ∧
    components.Evaluates levels value schema ∅ verdict

variable {components : Components} {value : Json} {schema start subtype : Schema}
  {names names' : List String} {levels levels' : ℕ} {verdict verdict' : Bool}

theorem Reaches.of_mem_members {member : Schema} {isReentry : Bool}
    (h : components.Reaches start schema)
    (hmem : member ∈ (schema.keyword isReentry).members) :
    components.Reaches start member := by
  obtain ⟨members, hall, hmember⟩ | ⟨-, members, hone | hany, hmember⟩ :=
    Schema.mem_members_cases hmem
  · exact h.member (Or.inl hall) hmember
  · exact h.member (Or.inr (Or.inl hone)) hmember
  · exact h.member (Or.inr (Or.inr hany)) hmember

theorem Extends.reaches (h : components.Extends subtype schema) :
    components.Reaches subtype schema := by
  induction h with
  | self => exact .start
  | reference _ href hresolves ih => exact ih.reference href hresolves
  | member _ _ hall hmem ih => exact ih.member (Or.inl hall) hmem

/-! ## Verdicts that differ -/

/-- Two verdicts of one keyword on one value that differ, each under its own selections,
rest on two that differ in the same way. -/
theorem RestsOn.exists_of_ne {keyword : Keyword} {dispatched dispatched' : Set String}
    (h : components.RestsOn levels value schema dispatched keyword verdict)
    (h' : components.RestsOn levels' value schema dispatched' keyword verdict')
    (hne : verdict ≠ verdict') (hone : ∀ members, keyword ≠ .oneOf members) :
    ∃ nested,
      (nested ∈ keyword.members ∨
        ∃ reference name, keyword = .reference reference ∧
          components.Resolves reference name nested) ∧
      components.Evaluates levels value nested dispatched verdict ∧
      components.Evaluates levels' value nested dispatched' verdict' := by
  cases keyword with
  | reference reference =>
      rcases h with ⟨name, target, hresolves, htarget⟩ | ⟨rfl, hnone⟩
      · rcases h' with ⟨name', target', hresolves', htarget'⟩ | ⟨rfl, hnone'⟩
        · obtain rfl := hresolves.unique hresolves'
          exact ⟨target, Or.inr ⟨reference, name, rfl, hresolves⟩, htarget, htarget'⟩
        · exact absurd hresolves (hnone' name target)
      · rcases h' with ⟨name', target', hresolves', -⟩ | ⟨rfl, -⟩
        · exact absurd hresolves' (hnone name' target')
        · contradiction
  | allOf members =>
      cases verdict with
      | true =>
          obtain rfl : verdict' = false := by simpa using hne
          obtain ⟨member, hmem, hmember'⟩ := h'
          exact ⟨member, Or.inl hmem, h member hmem, hmember'⟩
      | false =>
          obtain rfl : verdict' = true := by simpa using hne
          obtain ⟨member, hmem, hmember⟩ := h
          exact ⟨member, Or.inl hmem, hmember, h' member hmem⟩
  | oneOf members => exact absurd rfl (hone members)
  | anyOf members =>
      cases verdict with
      | true =>
          obtain rfl : verdict' = false := by simpa using hne
          obtain ⟨member, hmem, hmember⟩ := h
          exact ⟨member, Or.inl hmem, hmember, h' member hmem⟩
      | false =>
          obtain rfl : verdict' = true := by simpa using hne
          obtain ⟨member, hmem, hmember'⟩ := h'
          exact ⟨member, Or.inl hmem, h member hmem, hmember'⟩
  -- A type asks the same of the same inner values, whatever is selected outside.
  | type =>
      have hclash {levels levels' : ℕ}
          (haccepts : components.RestsOn levels value schema ∅ .type true)
          (hrefuses : components.RestsOn levels' value schema ∅ .type false) : False := by
        obtain ⟨hconforms, hinner⟩ := haccepts
        rcases hrefuses with hfails | ⟨inner, innerSchema, hmem, hrefused⟩
        · exact hfails hconforms
        · have haccepted := hinner inner innerSchema hmem
          rw [← setOf_mem_nil] at haccepted hrefused
          cases haccepted.unique hrefused
      cases verdict with
      | true =>
          obtain rfl : verdict' = false := by simpa using hne
          exact (hclash h h').elim
      | false =>
          obtain rfl : verdict' = true := by simpa using hne
          exact (hclash h' h).elim

/-! ## Inside and outside a selection -/

theorem Selects.not_isExempt {discriminator : Discriminator} {name : String}
    {target : Schema} (h : components.Selects discriminator value name target)
    (schema : Schema) : ¬IsExempt value schema := by
  obtain ⟨_, _, _⟩ := h
  simp [IsExempt]

section Hierarchy

variable {propertyName name : String}

/-- A reached schema with discriminator selects the subtype, unless it is selected
already. -/
theorem IsHierarchy.dispatches (hhierarchy : components.IsHierarchy propertyName subtype)
    (hreach : components.Reaches subtype schema)
    (hselects : components.Selects { propertyName } value name subtype)
    (hsome : schema.discriminator ≠ none) :
    components.Dispatches schema value {n | n ∈ []} (.selected name subtype) ∧
      components.Dispatches schema value {n | n ∈ [name]} .reentered := by
  obtain ⟨discriminator, hdiscriminator⟩ := Option.ne_none_iff_exists'.mp hsome
  obtain rfl := hhierarchy.discriminator_eq schema hreach discriminator hdiscriminator
  exact ⟨.selected hdiscriminator hselects (by simp), .again hdiscriminator hselects (by simp)⟩

/-- With the subtype selected, a reached schema is judged by a keyword. -/
theorem IsHierarchy.governs (hhierarchy : components.IsHierarchy propertyName subtype)
    (hreach : components.Reaches subtype schema)
    (hselects : components.Selects { propertyName } value name subtype) :
    components.Governs value schema {n | n ∈ [name]}
      (schema.keyword schema.discriminator.isSome) := by
  have hlive := hselects.not_isExempt schema
  cases hdiscriminator : schema.discriminator with
  | none => exact .intro false hlive (.absent hdiscriminator)
  | some discriminator =>
      have hsome : schema.discriminator ≠ none := by simp [hdiscriminator]
      exact .intro true hlive (hhierarchy.dispatches hreach hselects hsome).2

/-- Without a selection a reached schema has the verdict of the subtype, or the one that
it has with the subtype selected. -/
theorem IsHierarchy.verdict_cases (hhierarchy : components.IsHierarchy propertyName subtype)
    (hselects : components.Selects { propertyName } value name subtype)
    {depth : ℕ} {settled inside outside : Bool}
    (hsubtype : components.Evaluates depth value subtype {n | n ∈ [name]} settled)
    (hreach : components.Reaches subtype schema)
    (hinside : components.Evaluates levels value schema {n | n ∈ [name]} inside)
    (houtside : components.Evaluates levels' value schema {n | n ∈ []} outside) :
    outside = settled ∨ outside = inside := by
  -- On the depth without a selection: a discriminator on the way leads to the subtype, and
  -- any other schema is judged by the same keyword inside the selection.
  induction levels' generalizing schema levels inside outside with
  | zero => cases houtside
  | succ levels' ih =>
      cases levels with
      | zero => cases hinside
      | succ levels =>
          have hlive := hselects.not_isExempt schema
          by_cases hdiscriminator : schema.discriminator = none
          · have hinsideGoverns := hhierarchy.governs hreach hselects
            rw [hdiscriminator, Option.isSome_none] at hinsideGoverns
            have houtsideGoverns : components.Governs value schema {n | n ∈ []}
                (schema.keyword false) := .intro false hlive (.absent hdiscriminator)
            have hone (members : List Schema) : schema.keyword false ≠ .oneOf members := by
              intro hkeyword
              exact hhierarchy.discriminated schema hreach
                (by simp [Schema.oneOf_eq_of_keyword hkeyword]) hdiscriminator
            by_cases hsame : outside = inside
            · exact Or.inr hsame
            · obtain ⟨nested, hnested, hbelow, hbelow'⟩ :=
                (houtside.restsOn houtsideGoverns).exists_of_ne
                  (hinside.restsOn hinsideGoverns) hsame hone
              have hreach' : components.Reaches subtype nested := by
                rcases hnested with hmem | ⟨reference, name', hkeyword, hresolves⟩
                · exact hreach.of_mem_members hmem
                · exact hreach.reference (Schema.ref_eq_of_keyword hkeyword) hresolves
              exact ih hreach' hbelow' hbelow
          · have hselected := (hhierarchy.dispatches hreach hselects hdiscriminator).1
            exact Or.inl ((houtside.of_selected hlive hselected).unique hsubtype)

/-- What the subtype accepts, each of its parts accepts. -/
theorem IsHierarchy.evaluates_of_extends
    (hhierarchy : components.IsHierarchy propertyName subtype)
    (hselects : components.Selects { propertyName } value name subtype)
    (hsubtype : components.Evaluates levels value subtype {n | n ∈ [name]} true)
    {part : Schema} (hextends : components.Extends subtype part) :
    ∃ below ≤ levels, components.Evaluates below value part {n | n ∈ [name]} true := by
  induction hextends with
  | self => exact ⟨levels, Nat.le_refl _, hsubtype⟩
  | @reference schema target reference component hextends href hresolves ih =>
      obtain ⟨below, hbelow, haccepted⟩ := ih
      obtain ⟨below, rfl⟩ := haccepted.exists_eq_succ
      have hgoverns := hhierarchy.governs hextends.reaches hselects
      have hkeyword (isReentry : Bool) : schema.keyword isReentry = .reference reference := by
        simp [Schema.keyword, href]
      rw [hkeyword] at hgoverns
      rcases haccepted.restsOn hgoverns with ⟨_, found, hfound, htarget⟩ | ⟨hfalse, -⟩
      · obtain rfl := hresolves.unique hfound
        exact ⟨below, by omega, htarget⟩
      · cases hfalse
  | @member schema member members hextends href hall hmem ih =>
      obtain ⟨below, hbelow, haccepted⟩ := ih
      obtain ⟨below, rfl⟩ := haccepted.exists_eq_succ
      have hgoverns := hhierarchy.governs hextends.reaches hselects
      have hkeyword (isReentry : Bool) : schema.keyword isReentry = .allOf members := by
        simp [Schema.keyword, href, hall]
      rw [hkeyword] at hgoverns
      exact ⟨below, by omega, haccepted.restsOn hgoverns member hmem⟩

/-- A value that names its subtype is accepted by the base if the subtype accepts it, and
only then.  What is accepted satisfies the conditions of the subtype and of everything
that it extends. -/
theorem accepts_base_eq_accepts_subtype {base : Schema}
    (hbase : base.discriminator = some { propertyName })
    (hselects : components.Selects { propertyName } value name subtype)
    (hhierarchy : components.IsHierarchy propertyName subtype)
    (hbaseDepth : components.SettlesInDepth value base)
    (hsubtypeDepth : components.SettlesInDepth value subtype) :
    components.accepts value base = components.accepts value subtype ∧
      (components.accepts value subtype = true →
        ∀ part, components.Extends subtype part →
          components.acceptsWithin maxDepth value part [name] = true ∧
          (part.keyword part.discriminator.isSome = .type →
            part.Conforms value ∧ ∀ inner innerSchema, part.Inner value inner innerSchema →
              components.accepts inner innerSchema = true)) := by
  obtain ⟨levels, verdict, hlevels, hverdict⟩ := hbaseDepth
  obtain ⟨levels', verdict', hlevels', hverdict'⟩ := hsubtypeDepth
  have haccepts : components.accepts value base = verdict :=
    ((accepts_exact components value base).1 levels verdict hverdict hlevels).1
  have haccepts' : components.accepts value subtype = verdict' :=
    ((accepts_exact components value subtype).1 levels' verdict' hverdict' hlevels').1
  rw [← setOf_mem_nil] at hverdict hverdict'
  -- The base hands the value to the subtype, which is selected from then on.
  obtain ⟨levels, rfl⟩ := hverdict.exists_eq_succ
  have hselected : components.Dispatches base value {n | n ∈ []} (.selected name subtype) :=
    .selected hbase hselects (by simp)
  have hinside := hverdict.of_selected (hselects.not_isExempt base) hselected
  have hsame : verdict' = verdict :=
    (hhierarchy.verdict_cases hselects hinside .start hinside hverdict').elim id id
  refine ⟨by rw [haccepts, haccepts', hsame], ?_⟩
  intro haccepted part hextends
  rw [haccepts', hsame] at haccepted
  subst haccepted
  obtain ⟨below, hbelow, hpart⟩ :=
    hhierarchy.evaluates_of_extends hselects hinside hextends
  refine ⟨hpart.acceptsWithin_eq (by omega) fun _ => Iff.rfl, ?_⟩
  intro hkeyword
  obtain ⟨below, rfl⟩ := hpart.exists_eq_succ
  have hgoverns := hhierarchy.governs hextends.reaches hselects
  rw [hkeyword] at hgoverns
  obtain ⟨hconforms, hinner⟩ := hpart.restsOn hgoverns
  refine ⟨hconforms, ?_⟩
  intro inner innerSchema hmem
  exact ((accepts_exact components inner innerSchema).1 below true
    (hinner inner innerSchema hmem) (by omega)).1

end Hierarchy

/-! ### Dogs as pets -/

/-- The schemas to which that of dogs leads. -/
theorem reaches_dogSchema (h : petComponents.Reaches dogSchema schema) :
    schema = dogSchema ∨ schema = petSchema ∨ schema = { ref := some "Pet" } ∨
      schema = { ref := some "Dog" } ∨ schema = { required := ["bark"] } := by
  have hpet : petComponents.Resolves "Pet" "Pet" petSchema :=
    ⟨by decide, Or.inr rfl, by rfl⟩
  have hdog : petComponents.Resolves "Dog" "Dog" dogSchema :=
    ⟨by decide, Or.inr rfl, by rfl⟩
  induction h with
  | start => exact Or.inl rfl
  | reference _ href hresolves ih =>
      rcases ih with rfl | rfl | rfl | rfl | rfl
      · cases href
      · cases href
      · cases href
        exact Or.inr (Or.inl (hresolves.unique hpet))
      · cases href
        exact Or.inl (hresolves.unique hdog)
      · cases href
  | member _ hmembers hmem ih =>
      rcases ih with rfl | rfl | rfl | rfl | rfl
      · rcases hmembers with ⟨⟨⟩⟩ | ⟨⟨⟩⟩ | ⟨⟨⟩⟩
        simp only [List.mem_cons, List.not_mem_nil, or_false] at hmem
        rcases hmem with rfl | rfl <;> simp
      · rcases hmembers with ⟨⟨⟩⟩ | ⟨⟨⟩⟩ | ⟨⟨⟩⟩
        obtain rfl := List.mem_singleton.mp hmem
        simp
      · rcases hmembers with ⟨⟨⟩⟩ | ⟨⟨⟩⟩ | ⟨⟨⟩⟩
      · rcases hmembers with ⟨⟨⟩⟩ | ⟨⟨⟩⟩ | ⟨⟨⟩⟩
      · rcases hmembers with ⟨⟨⟩⟩ | ⟨⟨⟩⟩ | ⟨⟨⟩⟩

theorem isHierarchy_dogSchema : petComponents.IsHierarchy "petType" dogSchema where
  discriminator_eq schema hreach discriminator hdiscriminator := by
    rcases reaches_dogSchema hreach with rfl | rfl | rfl | rfl | rfl <;> cases hdiscriminator
    rfl
  discriminated schema hreach hone := by
    rcases reaches_dogSchema hreach with rfl | rfl | rfl | rfl | rfl
    · exact absurd rfl hone
    · simp [petSchema]
    · exact absurd rfl hone
    · exact absurd rfl hone
    · exact absurd rfl hone

/-- A dog meets the schema of pets inside that of dogs, is handed to that of dogs, and
meets the schema of pets once more. -/
theorem evaluates_dogValue_dogSchema :
    petComponents.Evaluates 6 dogValue dogSchema ∅ true := by
  have hlive (schema : Schema) : ¬IsExempt dogValue schema :=
    selects_dogSchema.not_isExempt schema
  have hpet : petComponents.Resolves "Pet" "Pet" petSchema :=
    ⟨by decide, Or.inr rfl, by rfl⟩
  apply Evaluates.allOfAll (.intro false (hlive _) (.absent rfl))
  intro member hmem
  simp only [List.mem_cons, List.not_mem_nil, or_false] at hmem
  rcases hmem with rfl | rfl
  · exact .reference (.intro false (hlive _) (.absent rfl)) hpet evaluates_dogValue
  · apply Evaluates.typeAll (.intro false (hlive _) (.absent rfl))
    · exact (Schema.conforms_object_iff (Or.inr rfl) (.object _)).mpr (by decide)
    · intro inner innerSchema hinner
      cases hinner <;> contradiction

/-- Dogs are accepted by the schema of pets and by that of dogs, and so they bark. -/
theorem accepts_base_eq_accepts_subtype_dog :
    petSchema.discriminator = some { propertyName := "petType" } ∧
      petComponents.SettlesInDepth dogValue petSchema ∧
      petComponents.SettlesInDepth dogValue dogSchema ∧
      petComponents.accepts dogValue petSchema = petComponents.accepts dogValue dogSchema ∧
      petComponents.accepts dogValue dogSchema = true ∧
      ({ required := ["bark"] } : Schema).Conforms dogValue := by
  have hbase : petComponents.SettlesInDepth dogValue petSchema :=
    ⟨4, true, by decide, evaluates_dogValue⟩
  have hsubtype : petComponents.SettlesInDepth dogValue dogSchema :=
    ⟨6, true, by decide, evaluates_dogValue_dogSchema⟩
  have haccepted : petComponents.accepts dogValue dogSchema = true :=
    ((accepts_exact petComponents dogValue dogSchema).1 6 true
      evaluates_dogValue_dogSchema (by decide)).1
  have hextends : petComponents.Extends dogSchema { required := ["bark"] } :=
    .member .self rfl rfl (by simp)
  obtain ⟨hsame, hparts⟩ :=
    accepts_base_eq_accepts_subtype rfl selects_dogSchema isHierarchy_dogSchema hbase hsubtype
  obtain ⟨-, hconditions⟩ := hparts haccepted _ hextends
  exact ⟨rfl, hbase, hsubtype, hsame, haccepted, (hconditions rfl).1⟩

end Components
end ApiContract
