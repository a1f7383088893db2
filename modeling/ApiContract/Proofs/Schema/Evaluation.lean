import ApiContract.Proofs.Schema.Calls

/-!
# Verdicts by the rules

`Components.Evaluates` gives the rules of the schema language as a relation between a
value, a schema, the names of the components that were dispatched to for the value, and
a verdict.  It bounds no depth; a derivation only counts how many schemas lie below one
another in it.

The main statement is that the bounded evaluation returns every verdict that the rules
derive through few enough schemas, in whichever order the declared members are looked
at.  Verdicts of the rules are therefore unique.
-/

namespace ApiContract
namespace Components

variable {components : Components}

/-! ## The rules -/

/-- The keyword that decides about a value, unless the value is exempt or the
discriminator of the schema decides. -/
inductive Governs (components : Components) (value : Json) (schema : Schema)
    (dispatched : Set String) : Keyword → Prop where
  | intro (isReentry : Bool) :
      ¬IsExempt value schema →
      components.Dispatches schema value dispatched (goesOn isReentry) →
      Governs components value schema dispatched (schema.keyword isReentry)

/-- The rules derive a verdict through at most `levels` schemas below one another, the
judged one among them.

A composition is settled as soon as enough of its members are: one refused member
settles `allOf`, two accepted ones settle `oneOf`, one accepted member settles `anyOf`.
A type accepts if its own conditions hold and the values inside are accepted. -/
inductive Evaluates (components : Components) :
    (levels : ℕ) → Json → Schema → (dispatched : Set String) → (verdict : Bool) → Prop where
  | exempt {levels : ℕ} {value : Json} {schema : Schema} {dispatched : Set String} :
      IsExempt value schema →
      Evaluates components (levels + 1) value schema dispatched true
  | refused {levels : ℕ} {value : Json} {schema : Schema} {dispatched : Set String} :
      ¬IsExempt value schema →
      components.Dispatches schema value dispatched .refused →
      Evaluates components (levels + 1) value schema dispatched false
  | dispatch {levels : ℕ} {value : Json} {schema target : Schema}
      {dispatched : Set String} {name : String} {verdict : Bool} :
      ¬IsExempt value schema →
      components.Dispatches schema value dispatched (.selected name target) →
      Evaluates components levels value target (insert name dispatched) verdict →
      Evaluates components (levels + 1) value schema dispatched verdict
  | reference {levels : ℕ} {value : Json} {schema target : Schema}
      {dispatched : Set String} {reference name : String} {verdict : Bool} :
      components.Governs value schema dispatched (.reference reference) →
      components.Resolves reference name target →
      Evaluates components levels value target dispatched verdict →
      Evaluates components (levels + 1) value schema dispatched verdict
  | unresolved {levels : ℕ} {value : Json} {schema : Schema}
      {dispatched : Set String} {reference : String} :
      components.Governs value schema dispatched (.reference reference) →
      (∀ name target, ¬components.Resolves reference name target) →
      Evaluates components (levels + 1) value schema dispatched false
  | allOfAll {levels : ℕ} {value : Json} {schema : Schema}
      {dispatched : Set String} {members : List Schema} :
      components.Governs value schema dispatched (.allOf members) →
      (∀ member ∈ members, Evaluates components levels value member dispatched true) →
      Evaluates components (levels + 1) value schema dispatched true
  | allOfNot {levels : ℕ} {value : Json} {schema member : Schema}
      {dispatched : Set String} {members : List Schema} :
      components.Governs value schema dispatched (.allOf members) →
      member ∈ members →
      Evaluates components levels value member dispatched false →
      Evaluates components (levels + 1) value schema dispatched false
  | oneOfOne {levels : ℕ} {value : Json} {schema member : Schema}
      {dispatched : Set String} {before after : List Schema} :
      components.Governs value schema dispatched (.oneOf (before ++ member :: after)) →
      Evaluates components levels value member dispatched true →
      (∀ other ∈ before ++ after,
        Evaluates components levels value other dispatched false) →
      Evaluates components (levels + 1) value schema dispatched true
  | oneOfNone {levels : ℕ} {value : Json} {schema : Schema}
      {dispatched : Set String} {members : List Schema} :
      components.Governs value schema dispatched (.oneOf members) →
      (∀ member ∈ members, Evaluates components levels value member dispatched false) →
      Evaluates components (levels + 1) value schema dispatched false
  | oneOfMany {levels : ℕ} {value : Json} {schema first second : Schema}
      {dispatched : Set String} {members : List Schema} :
      components.Governs value schema dispatched (.oneOf members) →
      [first, second].Sublist members →
      Evaluates components levels value first dispatched true →
      Evaluates components levels value second dispatched true →
      Evaluates components (levels + 1) value schema dispatched false
  | anyOfSome {levels : ℕ} {value : Json} {schema member : Schema}
      {dispatched : Set String} {members : List Schema} :
      components.Governs value schema dispatched (.anyOf members) →
      member ∈ members →
      Evaluates components levels value member dispatched true →
      Evaluates components (levels + 1) value schema dispatched true
  | anyOfNone {levels : ℕ} {value : Json} {schema : Schema}
      {dispatched : Set String} {members : List Schema} :
      components.Governs value schema dispatched (.anyOf members) →
      (∀ member ∈ members, Evaluates components levels value member dispatched false) →
      Evaluates components (levels + 1) value schema dispatched false
  | typeAll {levels : ℕ} {value : Json} {schema : Schema} {dispatched : Set String} :
      components.Governs value schema dispatched .type →
      schema.Conforms value →
      (∀ inner innerSchema, schema.Inner value inner innerSchema →
        Evaluates components levels inner innerSchema ∅ true) →
      Evaluates components (levels + 1) value schema dispatched true
  | typeNot {levels : ℕ} {value : Json} {schema : Schema} {dispatched : Set String} :
      components.Governs value schema dispatched .type →
      ¬schema.Conforms value →
      Evaluates components (levels + 1) value schema dispatched false
  | innerNot {levels : ℕ} {value inner : Json} {schema innerSchema : Schema}
      {dispatched : Set String} :
      components.Governs value schema dispatched .type →
      schema.Inner value inner innerSchema →
      Evaluates components levels inner innerSchema ∅ false →
      Evaluates components (levels + 1) value schema dispatched false

/-! ## The bounded evaluation -/

theorem Governs.step_eq {value : Json} {schema : Schema} {dispatched : Set String}
    {keyword : Keyword} (h : components.Governs value schema dispatched keyword)
    {names : List String} (hnames : ∀ name, name ∈ names ↔ name ∈ dispatched)
    (judge : Judge) :
    components.step judge value schema names =
      components.decideBy judge value schema names keyword := by
  cases h with
  | intro isReentry hlive hdispatches =>
      exact step_of_goesOn hlive (hdispatches.dispatch_eq hnames)

theorem countP_append_cons_eq_one {p : Schema → Bool} {member : Schema}
    {before after : List Schema} (hmember : p member = true)
    (hothers : ∀ other ∈ before ++ after, p other = false) :
    (before ++ member :: after).countP p = 1 := by
  have hbefore : before.countP p = 0 := by
    apply List.countP_eq_zero.mpr
    intro other hmem
    simp [hothers other (List.mem_append_left after hmem)]
  have hafter : after.countP p = 0 := by
    apply List.countP_eq_zero.mpr
    intro other hmem
    simp [hothers other (List.mem_append_right before hmem)]
  rw [List.countP_append, List.countP_cons_of_pos hmember, hbefore, hafter]

/-- A verdict of the rules is what the evaluation returns within any depth that its
derivation leaves room for. -/
theorem Evaluates.acceptsWithin_eq {levels depth : ℕ} {value : Json} {schema : Schema}
    {dispatched : Set String} {verdict : Bool} {names : List String}
    (h : components.Evaluates levels value schema dispatched verdict)
    (hdepth : levels ≤ depth) (hnames : ∀ name, name ∈ names ↔ name ∈ dispatched) :
    components.acceptsWithin depth value schema names = verdict := by
  induction levels generalizing depth value schema dispatched verdict names with
  | zero => cases h
  | succ levels ih =>
      obtain ⟨depth, rfl⟩ := Nat.exists_eq_succ_of_ne_zero (Nat.ne_zero_of_lt hdepth)
      have hlevels : levels ≤ depth := Nat.le_of_succ_le_succ hdepth
      change components.step (components.acceptsWithin depth) value schema names = verdict
      cases h with
      | exempt hexempt => exact step_of_exempt hexempt
      | refused hlive hdispatches =>
          exact step_of_refused hlive (hdispatches.dispatch_eq hnames)
      | dispatch hlive hdispatches htarget =>
          rw [step_of_selected hlive (hdispatches.dispatch_eq hnames)]
          exact ih htarget hlevels (by simp [hnames])
      | reference hgoverns hresolves htarget =>
          rw [hgoverns.step_eq hnames, decideBy, schema?_eq_some_iff.mpr ⟨_, hresolves⟩]
          exact ih htarget hlevels hnames
      | unresolved hgoverns hnone =>
          rw [hgoverns.step_eq hnames, decideBy, schema?_eq_none_iff.mpr hnone]
          rfl
      | allOfAll hgoverns hmembers =>
          rw [hgoverns.step_eq hnames, decideBy, List.all_eq_true]
          intro member hmem
          exact ih (hmembers member hmem) hlevels hnames
      | allOfNot hgoverns hmem hmember =>
          rw [hgoverns.step_eq hnames, decideBy, List.all_eq_false]
          exact ⟨_, hmem, by simp [ih hmember hlevels hnames]⟩
      | oneOfOne hgoverns hmember hothers =>
          rw [hgoverns.step_eq hnames, decideBy, beq_iff_eq]
          apply countP_append_cons_eq_one (ih hmember hlevels hnames)
          intro other hmem
          exact ih (hothers other hmem) hlevels hnames
      | oneOfNone hgoverns hmembers =>
          rw [hgoverns.step_eq hnames, decideBy, List.countP_eq_zero.mpr]
          · rfl
          · intro member hmem
            simp [ih (hmembers member hmem) hlevels hnames]
      | @oneOfMany _ _ _ first second _ members hgoverns hsublist hfirst hsecond =>
          have htwo : 2 ≤ members.countP
              (fun member => components.acceptsWithin depth value member names) := by
            have hpair := hsublist.countP_le
              (p := fun member => components.acceptsWithin depth value member names)
            simpa [List.countP_cons, ih hfirst hlevels hnames, ih hsecond hlevels hnames]
              using hpair
          rw [hgoverns.step_eq hnames, decideBy, beq_eq_false_iff_ne]
          omega
      | anyOfSome hgoverns hmem hmember =>
          rw [hgoverns.step_eq hnames, decideBy, List.any_eq_true]
          exact ⟨_, hmem, ih hmember hlevels hnames⟩
      | anyOfNone hgoverns hmembers =>
          rw [hgoverns.step_eq hnames, decideBy, List.any_eq_false]
          intro member hmem
          simp [ih (hmembers member hmem) hlevels hnames]
      | typeAll hgoverns hconforms hinner =>
          rw [hgoverns.step_eq hnames, decideBy, Schema.acceptsType_iff]
          refine ⟨hconforms, ?_⟩
          intro inner innerSchema hmem
          exact ih (hinner inner innerSchema hmem) hlevels (by simp)
      | typeNot hgoverns hconforms =>
          rw [hgoverns.step_eq hnames, decideBy, ← Bool.not_eq_true, Schema.acceptsType_iff]
          exact fun haccepted => hconforms haccepted.1
      | innerNot hgoverns hmem hinner =>
          have hrefused : components.acceptsWithin depth _ _ [] = false :=
            ih hinner hlevels (by simp)
          rw [hgoverns.step_eq hnames, decideBy, ← Bool.not_eq_true, Schema.acceptsType_iff]
          rintro ⟨-, haccepted⟩
          simp [haccepted _ _ hmem] at hrefused

/-- The rules never derive both verdicts. -/
theorem Evaluates.unique {levels levels' : ℕ} {value : Json} {schema : Schema}
    {names : List String} {verdict verdict' : Bool}
    (h : components.Evaluates levels value schema {name | name ∈ names} verdict)
    (h' : components.Evaluates levels' value schema {name | name ∈ names} verdict') :
    verdict = verdict' := by
  rw [← h.acceptsWithin_eq (Nat.le_max_left levels levels') fun _ => Iff.rfl]
  exact h'.acceptsWithin_eq (Nat.le_max_right levels levels') fun _ => Iff.rfl

/-! ## Evaluations that stay within a depth -/

/-- Every chain of nested judgements ends within `levels` judgements, the first one among
them. -/
def Within (components : Components) : (levels : ℕ) → Json → Schema → List String → Prop
  | 0 => fun _ _ _ => False
  | levels + 1 => fun value schema dispatched =>
      ∀ link value' schema' dispatched',
        components.Call value schema dispatched link value' schema' dispatched' →
          components.Within levels value' schema' dispatched'

/-- A `oneOf` of which every member has a verdict has one itself: it depends on whether
no member, exactly one, or more than one is accepted. -/
theorem evaluates_of_oneOf {levels : ℕ} {value : Json} {schema : Schema}
    {dispatched : Set String} {members : List Schema} {verdicts : Schema → Bool}
    (hgoverns : components.Governs value schema dispatched (.oneOf members))
    (hverdicts : ∀ member ∈ members,
      components.Evaluates levels value member dispatched (verdicts member)) :
    components.Evaluates (levels + 1) value schema dispatched
      (members.countP verdicts == 1) := by
  have haccepted {member : Schema} (hmem : member ∈ members)
      (hverdict : verdicts member = true) :
      components.Evaluates levels value member dispatched true :=
    hverdict ▸ hverdicts member hmem
  have hrefused {member : Schema} (hmem : member ∈ members)
      (hverdict : ¬verdicts member = true) :
      components.Evaluates levels value member dispatched false :=
    Bool.eq_false_of_not_eq_true hverdict ▸ hverdicts member hmem
  rw [List.countP_eq_length_filter]
  match hfilter : members.filter verdicts with
  | [] =>
      apply Evaluates.oneOfNone hgoverns
      intro member hmem
      exact hrefused hmem (List.filter_eq_nil_iff.mp hfilter member hmem)
  | [member] =>
      obtain ⟨before, after, rfl, hbefore, hmember, hafter⟩ :=
        List.filter_eq_cons_iff.mp hfilter
      apply Evaluates.oneOfOne hgoverns (haccepted (by simp) hmember)
      intro other hmem
      rcases List.mem_append.mp hmem with hmem | hmem
      · exact hrefused (by simp [hmem]) (hbefore other hmem)
      · exact hrefused (by simp [hmem]) (List.filter_eq_nil_iff.mp hafter other hmem)
  | first :: second :: rest =>
      have hfirst : first ∈ members ∧ verdicts first = true := by
        rw [← List.mem_filter, hfilter]
        simp
      have hsecond : second ∈ members ∧ verdicts second = true := by
        rw [← List.mem_filter, hfilter]
        simp
      have hpair : [first, second].Sublist members := by
        have hsublist := List.filter_sublist (p := verdicts) (l := members)
        rw [hfilter] at hsublist
        exact List.Sublist.trans (by simp) hsublist
      have hmany : ((first :: second :: rest).length == 1) = false := by simp
      rw [hmany]
      exact .oneOfMany hgoverns hpair (haccepted hfirst.1 hfirst.2)
        (haccepted hsecond.1 hsecond.2)

/-- The rules derive whatever a keyword decides, if they derive what the nested
judgements decide. -/
theorem evaluates_of_goesOn {levels : ℕ} {value : Json} {schema : Schema}
    {names : List String} {isReentry : Bool} (hlive : ¬IsExempt value schema)
    (hdispatch : components.dispatch schema value names = goesOn isReentry)
    (hcalls : ∀ link value' schema' names',
      components.Call value schema names link value' schema' names' →
        components.Evaluates levels value' schema' {name | name ∈ names'}
          (components.acceptsWithin levels value' schema' names')) :
    components.Evaluates (levels + 1) value schema {name | name ∈ names}
      (components.decideBy (components.acceptsWithin levels) value schema names
        (schema.keyword isReentry)) := by
  have hdispatches := components.dispatches_dispatch schema value names
  rw [hdispatch] at hdispatches
  have hgoverns : components.Governs value schema {name | name ∈ names}
      (schema.keyword isReentry) := .intro isReentry hlive hdispatches
  have hmembers : ∀ member ∈ (schema.keyword isReentry).members,
      components.Evaluates levels value member {name | name ∈ names}
        (components.acceptsWithin levels value member names) := by
    intro member hmem
    exact hcalls _ _ _ _ (.member hlive hdispatch hmem)
  generalize hkeyword : schema.keyword isReentry = keyword at hgoverns hmembers
  cases keyword with
  | reference reference =>
      cases htarget : components.schema? reference with
      | none =>
          simp only [decideBy, htarget, Option.any_none]
          exact .unresolved hgoverns (schema?_eq_none_iff.mp htarget)
      | some target =>
          obtain ⟨name, hresolves⟩ := schema?_eq_some_iff.mp htarget
          simp only [decideBy, htarget, Option.any_some]
          exact .reference hgoverns hresolves
            (hcalls _ _ _ _ (.reference hlive hdispatch hkeyword hresolves))
  | allOf members =>
      cases hall : members.all fun member =>
          components.acceptsWithin levels value member names with
      | true =>
          simp only [decideBy, hall]
          apply Evaluates.allOfAll hgoverns
          intro member hmem
          exact List.all_eq_true.mp hall member hmem ▸ hmembers member hmem
      | false =>
          simp only [decideBy, hall]
          obtain ⟨member, hmem, hfalse⟩ := List.all_eq_false.mp hall
          exact .allOfNot hgoverns hmem
            (Bool.eq_false_of_not_eq_true hfalse ▸ hmembers member hmem)
  | oneOf members => exact evaluates_of_oneOf hgoverns hmembers
  | anyOf members =>
      cases hany : members.any fun member =>
          components.acceptsWithin levels value member names with
      | true =>
          simp only [decideBy, hany]
          obtain ⟨member, hmem, htrue⟩ := List.any_eq_true.mp hany
          exact .anyOfSome hgoverns hmem (htrue ▸ hmembers member hmem)
      | false =>
          simp only [decideBy, hany]
          apply Evaluates.anyOfNone hgoverns
          intro member hmem
          have hfalse := Bool.eq_false_of_not_eq_true (List.any_eq_false.mp hany member hmem)
          exact hfalse ▸ hmembers member hmem
  | type =>
      have hinner {inner : Json} {innerSchema : Schema}
          (hmem : schema.Inner value inner innerSchema) :
          components.Evaluates levels inner innerSchema ∅
            (components.acceptsWithin levels inner innerSchema []) := by
        simpa using hcalls _ _ _ _ (.inner hlive hdispatch hkeyword hmem)
      simp only [decideBy]
      cases htype : schema.acceptsType (components.acceptsWithin levels) value with
      | true =>
          obtain ⟨hconforms, haccepted⟩ := Schema.acceptsType_iff.mp htype
          apply Evaluates.typeAll hgoverns hconforms
          intro inner innerSchema hmem
          exact haccepted inner innerSchema hmem ▸ hinner hmem
      | false =>
          rw [← Bool.not_eq_true, Schema.acceptsType_iff] at htype
          by_cases hconforms : schema.Conforms value
          · push Not at htype
            obtain ⟨inner, innerSchema, hmem, hfalse⟩ := htype hconforms
            exact .innerNot hgoverns hmem
              (Bool.eq_false_of_not_eq_true hfalse ▸ hinner hmem)
          · exact .typeNot hgoverns hconforms

/-- The rules derive what the evaluation returns wherever every chain of nested
judgements stays within its depth. -/
theorem Within.evaluates {levels : ℕ} {value : Json} {schema : Schema}
    {names : List String} (h : components.Within levels value schema names) :
    components.Evaluates levels value schema {name | name ∈ names}
      (components.acceptsWithin levels value schema names) := by
  induction levels generalizing value schema names with
  | zero => exact h.elim
  | succ levels ih =>
      change components.Evaluates (levels + 1) value schema {name | name ∈ names}
        (components.step (components.acceptsWithin levels) value schema names)
      have hcalls : ∀ link value' schema' names',
          components.Call value schema names link value' schema' names' →
            components.Evaluates levels value' schema' {name | name ∈ names'}
              (components.acceptsWithin levels value' schema' names') := by
        intro link value' schema' names' hcall
        exact ih (h link value' schema' names' hcall)
      have hdispatches := components.dispatches_dispatch schema value names
      rcases step_cases components value schema names with
        hexempt | ⟨hlive, ⟨name, target, hdispatch⟩ | hdispatch | ⟨isReentry, hdispatch⟩⟩
      · rw [step_of_exempt hexempt]
        exact .exempt hexempt
      · rw [step_of_selected hlive hdispatch]
        rw [hdispatch] at hdispatches
        have htarget := hcalls _ _ _ _ (.dispatch hlive hdispatch)
        have hinsert : {n | n ∈ name :: names} = insert name {n | n ∈ names} := by
          ext n
          simp
        rw [hinsert] at htarget
        exact .dispatch hlive hdispatches htarget
      · rw [step_of_refused hlive hdispatch]
        rw [hdispatch] at hdispatches
        exact .refused hlive hdispatches
      · rw [step_of_goesOn hlive hdispatch]
        exact evaluates_of_goesOn hlive hdispatch hcalls

/-! ## Orders of declared members -/

/-- An order for the declared members of every schema. -/
structure MemberOrder where
  list : Schema → List (String × Schema)
  perm : ∀ schema, (list schema).Perm schema.properties

/-- The schema with its declared members in an order. -/
def MemberOrder.arrange (order : MemberOrder) (schema : Schema) : Schema :=
  { schema with properties := order.list schema }

/-- The bounded evaluation that looks at the declared members of every schema in an
order. -/
def acceptsInOrder (components : Components) (order : MemberOrder) : (depth : ℕ) → Judge
  | 0 => fun _ _ _ => false
  | depth + 1 => fun value schema dispatched =>
      components.step (components.acceptsInOrder order depth) value (order.arrange schema)
        dispatched

theorem acceptsObject_arrange (order : MemberOrder) (judge : Judge) (schema : Schema)
    (value : Json) :
    (order.arrange schema).acceptsObject judge value = schema.acceptsObject judge value := by
  have hperm := order.perm schema
  have hdeclared (members : List (String × Json)) :
      Schema.acceptsDeclared judge (order.list schema) members =
        Schema.acceptsDeclared judge schema.properties members := by
    exact hperm.all_eq
  have hlookup (name : String) :
      ((order.list schema).lookup name).isSome = (schema.properties.lookup name).isSome := by
    rw [Bool.eq_iff_iff, Schema.lookup_isSome_iff, Schema.lookup_isSome_iff]
    simp only [hperm.mem_iff]
  have hundeclared (members : List (String × Json)) :
      (order.arrange schema).acceptsUndeclared judge members =
        schema.acceptsUndeclared judge members := by
    simp only [Schema.acceptsUndeclared, MemberOrder.arrange, hlookup]
  simp only [Schema.acceptsObject, hundeclared]
  simp only [MemberOrder.arrange, hdeclared]

theorem step_arrange (order : MemberOrder) (judge : Judge) (value : Json) (schema : Schema)
    (dispatched : List String) :
    components.step judge value (order.arrange schema) dispatched =
      components.step judge value schema dispatched := by
  have htype : (order.arrange schema).acceptsType judge value =
      schema.acceptsType judge value := by
    simp only [Schema.acceptsType, acceptsObject_arrange]
    rfl
  simp only [step, applyRules, htype]
  rfl

/-- The order in which declared members are looked at makes no difference. -/
theorem acceptsInOrder_eq (order : MemberOrder) (depth : ℕ) :
    components.acceptsInOrder order depth = components.acceptsWithin depth := by
  induction depth with
  | zero => rfl
  | succ depth ih =>
      funext value schema dispatched
      simp only [acceptsInOrder, ih]
      exact step_arrange order _ value schema dispatched

/-- The evaluation is exact up to its depth.  It returns every verdict that the rules
derive within it, for every order in which declared members are looked at, and the rules
derive what it returns wherever the nested judgements stay within it. -/
theorem accepts_exact (components : Components) (value : Json) (schema : Schema) :
    (∀ levels verdict, components.Evaluates levels value schema ∅ verdict →
        levels ≤ maxDepth + 1 →
          components.accepts value schema = verdict ∧
            ∀ order : MemberOrder,
              components.acceptsInOrder order (maxDepth + 1) value schema [] = verdict) ∧
      (components.Within (maxDepth + 1) value schema [] →
        components.Evaluates (maxDepth + 1) value schema ∅
          (components.accepts value schema)) := by
  constructor
  · intro levels verdict h hlevels
    have haccepts : components.accepts value schema = verdict :=
      h.acceptsWithin_eq hlevels (by simp)
    refine ⟨haccepts, ?_⟩
    intro order
    rw [acceptsInOrder_eq]
    exact haccepts
  · intro h
    have hempty : {name | name ∈ ([] : List String)} = ∅ := by simp
    have hevaluates := h.evaluates
    rwa [hempty] at hevaluates

/-! ## A subtype that extends its base -/

/-- Pets are described by the component of their type. -/
def petSchema : Schema where
  type := some .object
  required := ["petType"]
  discriminator := some { propertyName := "petType" }
  oneOf := some [{ ref := some "Dog" }]

/-- Dogs extend the description of pets. -/
def dogSchema : Schema where
  allOf := some [{ ref := some "Pet" }, { required := ["bark"] }]

def petComponents : Components where
  schemas := [("Dog", dogSchema), ("Pet", petSchema)]

def dogValue : Json :=
  .object [("bark", .bool true), ("petType", .string "Dog")]

theorem selects_dogSchema :
    petComponents.Selects { propertyName := "petType" } dogValue "Dog" dogSchema := by
  have hresolves :
      petComponents.Resolves "#/components/schemas/Dog" "Dog" dogSchema :=
    ⟨by decide, Or.inl (by decide), by rfl⟩
  exact .intro (by rfl) (by rfl) hresolves

/-- A dog is judged by the schema of dogs, and by that of pets once more on the way.
There the alternatives are skipped. -/
theorem evaluates_dogValue :
    petComponents.Evaluates 4 dogValue petSchema ∅ true := by
  have hlive (schema : Schema) : ¬IsExempt dogValue schema := by
    simp [IsExempt, dogValue]
  have hbase : petComponents.Resolves "Pet" "Pet" petSchema :=
    ⟨by decide, Or.inr rfl, by rfl⟩
  have hfresh : "Dog" ∉ (∅ : Set String) := by simp
  apply Evaluates.dispatch (hlive _) (.selected rfl selects_dogSchema hfresh)
  apply Evaluates.allOfAll (.intro false (hlive _) (.absent rfl))
  intro member hmem
  simp only [List.mem_cons, List.not_mem_nil, or_false] at hmem
  rcases hmem with rfl | rfl
  · apply Evaluates.reference (.intro false (hlive _) (.absent rfl)) hbase
    have hagain : "Dog" ∈ insert "Dog" (∅ : Set String) := Set.mem_insert _ _
    apply Evaluates.typeAll (.intro true (hlive _) (.again rfl selects_dogSchema hagain))
    · exact (Schema.conforms_object_iff (Or.inl rfl) (.object _)).mpr (by decide)
    · intro inner innerSchema hinner
      cases hinner <;> contradiction
  · apply Evaluates.typeAll (.intro false (hlive _) (.absent rfl))
    · exact (Schema.conforms_object_iff (Or.inr rfl) (.object _)).mpr (by decide)
    · intro inner innerSchema hinner
      cases hinner <;> contradiction

/-- A value that is no object is refused before any nested judgement. -/
theorem within_bool (flag : Bool) (levels : ℕ) :
    petComponents.Within (levels + 1) (.bool flag) petSchema [] := by
  have hrefused : petComponents.dispatch petSchema (.bool flag) [] = .refused := by
    rfl
  intro link value' schema' dispatched' hcall
  cases hcall with
  | dispatch _ hdispatch => simp [hrefused] at hdispatch
  | @reference isReentry _ _ _ _ hdispatch =>
      cases isReentry <;> simp [hrefused, goesOn] at hdispatch
  | @member isReentry _ _ hdispatch =>
      cases isReentry <;> simp [hrefused, goesOn] at hdispatch
  | @inner isReentry _ _ _ hdispatch =>
      cases isReentry <;> simp [hrefused, goesOn] at hdispatch

/-- Dogs are accepted as pets, and the verdict on a value that is no object is one of the
rules. -/
theorem accepts_exact_of_pets :
    (petComponents.Evaluates 4 dogValue petSchema ∅ true ∧ 4 ≤ maxDepth + 1 ∧
        petComponents.accepts dogValue petSchema = true) ∧
      petComponents.Within (maxDepth + 1) (.bool true) petSchema [] ∧
        petComponents.Evaluates (maxDepth + 1) (.bool true) petSchema ∅
          (petComponents.accepts (.bool true) petSchema) := by
  have hlevels : 4 ≤ maxDepth + 1 := by decide
  have hdog := (accepts_exact petComponents dogValue petSchema).1 4 true
    evaluates_dogValue hlevels
  have hbool := within_bool true maxDepth
  exact ⟨⟨evaluates_dogValue, hlevels, hdog.1⟩, hbool,
    (accepts_exact petComponents (.bool true) petSchema).2 hbool⟩

end Components
end ApiContract
