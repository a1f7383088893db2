import ApiContract.Proofs.Schema.Descent
import ApiContract.Proofs.Schema.Subtypes
import Mathlib.Data.List.Forall2

/-!
# References in contexts

A context is a schema with one place left open: at the root, or for items, a declared
member, undeclared members or a member of a composition, at any depth.  A reference that
fills the place can be replaced by the schema that it names: whatever verdict the rules
derive for the one they derive for the other, with no more schemas below one another.

The proof compares schemas part by part.  Two that are `Schema.Parallel` have the same
keywords and parts that are related one to one, and their verdicts rest on those of their
parts in the same way.
-/

namespace ApiContract

/-! ## Contexts -/

/-- A schema with one place left open.  `outer` is the schema around the place, of which
the part that holds the place is left out of account. -/
inductive SchemaContext where
  | place
  | items (outer : Schema) (inner : SchemaContext)
  | property (outer : Schema) (before : List (String × Schema)) (name : String)
      (inner : SchemaContext) (after : List (String × Schema))
  | additional (outer : Schema) (inner : SchemaContext)
  | allOf (outer : Schema) (before : List Schema) (inner : SchemaContext)
      (after : List Schema)
  | oneOf (outer : Schema) (before : List Schema) (inner : SchemaContext)
      (after : List Schema)
  | anyOf (outer : Schema) (before : List Schema) (inner : SchemaContext)
      (after : List Schema)

/-- The schema with a schema in the open place. -/
def SchemaContext.fill (schema : Schema) : SchemaContext → Schema
  | place => schema
  | items outer inner => { outer with items := some (inner.fill schema) }
  | property outer before name inner after =>
      { outer with properties := before ++ (name, inner.fill schema) :: after }
  | additional outer inner =>
      { outer with additionalProperties := some (.matching (inner.fill schema)) }
  | allOf outer before inner after =>
      { outer with allOf := some (before ++ inner.fill schema :: after) }
  | oneOf outer before inner after =>
      { outer with oneOf := some (before ++ inner.fill schema :: after) }
  | anyOf outer before inner after =>
      { outer with anyOf := some (before ++ inner.fill schema :: after) }

/-! ## Related lists -/

section Lists

variable {α β : Type} {related : α → β → Prop} {xs : List α} {ys : List β}

theorem exists_of_forall₂ (h : List.Forall₂ related xs ys) {x : α} (hx : x ∈ xs) :
    ∃ y ∈ ys, related x y := by
  induction h with
  | nil => cases hx
  | cons hfirst _ ih =>
      rcases List.mem_cons.mp hx with rfl | hx
      · exact ⟨_, List.mem_cons_self, hfirst⟩
      · obtain ⟨y, hy, hrelated⟩ := ih hx
        exact ⟨y, List.mem_cons_of_mem _ hy, hrelated⟩

theorem exists_sublist_of_forall₂ (h : List.Forall₂ related xs ys) {part : List α}
    (hpart : part.Sublist xs) :
    ∃ part', part'.Sublist ys ∧ List.Forall₂ related part part' := by
  induction h generalizing part with
  | nil => exact ⟨[], List.Sublist.refl _, List.sublist_nil.mp hpart ▸ .nil⟩
  | @cons x y xs ys hfirst _ ih =>
      cases hpart with
      | cons _ hpart =>
          obtain ⟨part', hsublist, hrelated⟩ := ih hpart
          exact ⟨part', hsublist.cons y, hrelated⟩
      | cons_cons _ hpart =>
          obtain ⟨part', hsublist, hrelated⟩ := ih hpart
          exact ⟨y :: part', hsublist.cons_cons y, .cons hfirst hrelated⟩

theorem exists_split_of_forall₂ {before after : List α} {x : α}
    (h : List.Forall₂ related (before ++ x :: after) ys) :
    ∃ before' y after', ys = before' ++ y :: after' ∧ related x y ∧
      List.Forall₂ related (before ++ after) (before' ++ after') := by
  induction before generalizing ys with
  | nil =>
      obtain _ | ⟨hx, hafter⟩ := h
      exact ⟨[], _, _, rfl, hx, hafter⟩
  | cons first before ih =>
      obtain _ | ⟨hfirst, hrest⟩ := h
      obtain ⟨before', y, after', rfl, hx, hothers⟩ := ih hrest
      exact ⟨_ :: before', y, after', rfl, hx, .cons hfirst hothers⟩

end Lists

/-! ## Schemas with related parts -/

/-- The same flags, or related schemas. -/
inductive AdditionalProperties.Rel {α : Type} (related : α → α → Prop) :
    AdditionalProperties α → AdditionalProperties α → Prop
  | allowed (flag : Bool) : Rel related (.allowed flag) (.allowed flag)
  | matching {schema schema' : α} : related schema schema' →
      Rel related (.matching schema) (.matching schema')

/-- The same reference, or compositions of related members. -/
inductive Keyword.Rel (related : Schema → Schema → Prop) : Keyword → Keyword → Prop
  | reference (target : String) : Rel related (.reference target) (.reference target)
  | allOf {members members' : List Schema} : List.Forall₂ related members members' →
      Rel related (.allOf members) (.allOf members')
  | oneOf {members members' : List Schema} : List.Forall₂ related members members' →
      Rel related (.oneOf members) (.oneOf members')
  | anyOf {members members' : List Schema} : List.Forall₂ related members members' →
      Rel related (.anyOf members) (.anyOf members')
  | type : Rel related .type .type

namespace Schema

/-- Two schemas have the same keywords, and parts that are related one to one. -/
structure Parallel (related : Schema → Schema → Prop) (schema schema' : Schema) : Prop where
  keywords_eq : schema.toKeywords = schema'.toKeywords
  properties : List.Forall₂ (fun p p' => p.1 = p'.1 ∧ related p.2 p'.2) schema.properties
    schema'.properties
  items : Option.Rel related schema.items schema'.items
  allOf : Option.Rel (List.Forall₂ related) schema.allOf schema'.allOf
  oneOf : Option.Rel (List.Forall₂ related) schema.oneOf schema'.oneOf
  anyOf : Option.Rel (List.Forall₂ related) schema.anyOf schema'.anyOf
  additional : Option.Rel (AdditionalProperties.Rel related) schema.additionalProperties
    schema'.additionalProperties

variable {related : Schema → Schema → Prop} {schema schema' innerSchema : Schema}
  {value inner : Json}

theorem Parallel.refl (hrefl : ∀ schema, related schema schema) (schema : Schema) :
    Parallel related schema schema := by
  have hoption {α : Type} {r : α → α → Prop} (hr : ∀ x, r x x) (x : Option α) :
      Option.Rel r x x := by
    cases x with
    | none => exact .none
    | some x => exact .some (hr x)
  have hlist (members : List Schema) : List.Forall₂ related members members :=
    List.forall₂_same.mpr fun member _ => hrefl member
  refine ⟨rfl, ?_, hoption hrefl _, hoption hlist _, hoption hlist _, hoption hlist _, ?_⟩
  · exact List.forall₂_same.mpr fun p _ => ⟨rfl, hrefl p.2⟩
  · refine hoption ?_ _
    rintro (flag | extra)
    · exact .allowed flag
    · exact .matching (hrefl extra)

namespace Parallel

theorem keyword (h : Parallel related schema schema') (isReentry : Bool) :
    Keyword.Rel related (schema.keyword isReentry) (schema'.keyword isReentry) := by
  have href : schema.ref = schema'.ref := congrArg Keywords.ref h.keywords_eq
  have hall := h.allOf
  have hone := h.oneOf
  have hany := h.anyOf
  simp only [Schema.keyword, ← href]
  generalize schema.allOf = allOf, schema'.allOf = allOf' at hall
  generalize schema.oneOf = oneOf, schema'.oneOf = oneOf' at hone
  generalize schema.anyOf = anyOf, schema'.anyOf = anyOf' at hany
  cases schema.ref with
  | some reference => exact .reference reference
  | none =>
      cases hall with
      | some hmembers => exact .allOf hmembers
      | none =>
          cases isReentry with
          | true => exact .type
          | false =>
              cases hone with
              | some hmembers => exact .oneOf hmembers
              | none =>
                  cases hany with
                  | some hmembers => exact .anyOf hmembers
                  | none => exact .type

theorem flip (h : Parallel related schema schema') :
    Parallel (fun schema schema' => related schema' schema) schema' schema := by
  have hoption {α : Type} {r : α → α → Prop} {x y : Option α} (hr : Option.Rel r x y) :
      Option.Rel (fun a b => r b a) y x := by
    cases hr with
    | none => exact .none
    | some hr => exact .some hr
  have hcomposition {members members' : Option (List Schema)}
      (hr : Option.Rel (List.Forall₂ related) members members') :
      Option.Rel (List.Forall₂ fun schema schema' => related schema' schema) members'
        members := by
    cases hr with
    | none => exact .none
    | some hr => exact .some hr.flip
  refine ⟨h.keywords_eq.symm, ?_, hoption h.items, hcomposition h.allOf, hcomposition h.oneOf,
    hcomposition h.anyOf, ?_⟩
  · exact h.properties.flip.imp fun _ _ hp => ⟨hp.1.symm, hp.2⟩
  · have hadditional := h.additional
    generalize schema.additionalProperties = x, schema'.additionalProperties = y at hadditional
    obtain ⟨⟨flag⟩ | ⟨hextra⟩⟩ | _ := hadditional
    · exact .some (.allowed flag)
    · exact .some (.matching hextra)
    · exact .none

theorem isExempt_iff (h : Parallel related schema schema') :
    Components.IsExempt value schema ↔ Components.IsExempt value schema' := by
  have hnullable : schema.nullable = schema'.nullable :=
    congrArg Keywords.nullable h.keywords_eq
  rw [Components.IsExempt, Components.IsExempt, hnullable]

theorem conforms_iff (h : Parallel related schema schema') :
    schema.Conforms value ↔ schema'.Conforms value := by
  obtain ⟨keywords, _⟩ := schema
  obtain ⟨keywords', _⟩ := schema'
  obtain rfl : keywords = keywords' := h.keywords_eq
  rfl

theorem dispatches_iff {components : Components} {dispatched : Set String} {outcome : Dispatch}
    (h : Parallel related schema schema') :
    components.Dispatches schema value dispatched outcome ↔
      components.Dispatches schema' value dispatched outcome := by
  have hof {schema schema' : Schema} (hdiscriminator : schema.discriminator = schema'.discriminator)
      (hdispatches : components.Dispatches schema value dispatched outcome) :
      components.Dispatches schema' value dispatched outcome := by
    cases hdispatches with
    | absent hnone => exact .absent (hdiscriminator ▸ hnone)
    | selected hsome hselects hfresh =>
        exact .selected (hdiscriminator ▸ hsome) hselects hfresh
    | again hsome hselects hold => exact .again (hdiscriminator ▸ hsome) hselects hold
    | unnamed hsome hnone hnonempty =>
        exact .unnamed (hdiscriminator ▸ hsome) hnone hnonempty
    | refused hsome hnone hempty => exact .refused (hdiscriminator ▸ hsome) hnone hempty
  have hdiscriminator : schema.discriminator = schema'.discriminator :=
    congrArg Keywords.discriminator h.keywords_eq
  exact ⟨hof hdiscriminator, hof hdiscriminator.symm⟩

/-- What one schema judges inside a value, the other one judges there too, by a related
schema. -/
theorem exists_inner (h : Parallel related schema schema')
    (hinner : schema.Inner value inner innerSchema) :
    ∃ innerSchema', schema'.Inner value inner innerSchema' ∧
      related innerSchema innerSchema' := by
  have htype : schema.type = schema'.type := congrArg Keywords.type h.keywords_eq
  cases hinner with
  | item harray hitems hmem hschema =>
      have hrel := h.items
      rw [hschema] at hrel
      generalize hschema' : schema'.items = itemSchema' at hrel
      cases hrel with
      | some hrelated => exact ⟨_, .item (htype ▸ harray) hitems hmem hschema', hrelated⟩
  | declared hobject hmembers hmem hlookup =>
      obtain ⟨⟨name, property⟩, hmem', rfl, hrelated⟩ := exists_of_forall₂ h.properties hmem
      exact ⟨property, .declared (htype ▸ hobject) hmembers hmem' hlookup, hrelated⟩
  | @undeclared _ name _ _ hobject hmembers hmem hfree hextra =>
      have hfree' (property : Schema) : (name, property) ∉ schema'.properties := by
        intro hdeclared
        obtain ⟨⟨_, other⟩, hother, rfl, -⟩ := exists_of_forall₂ h.flip.properties hdeclared
        exact hfree other hother
      have hrel := h.additional
      rw [hextra] at hrel
      generalize hextra' : schema'.additionalProperties = additional' at hrel
      obtain ⟨⟨⟩ | ⟨hrelated⟩⟩ | _ := hrel
      exact ⟨_, .undeclared (htype ▸ hobject) hmembers hmem hfree' hextra', hrelated⟩

end Parallel
end Schema

/-! ## Contexts make parallel schemas -/

namespace SchemaContext

variable {related : Schema → Schema → Prop} {schema schema' : Schema}

/-- Two schemas in one place make parallel schemas, in which what holds them is related
and all else is the same. -/
theorem parallel_fill (hrefl : ∀ schema, related schema schema)
    (hfill : ∀ context : SchemaContext, related (context.fill schema) (context.fill schema'))
    (context : SchemaContext) (hne : context ≠ place) :
    Schema.Parallel related (context.fill schema) (context.fill schema') := by
  have hmembers (before : List Schema) (inner : SchemaContext) (after : List Schema) :
      List.Forall₂ related (before ++ inner.fill schema :: after)
        (before ++ inner.fill schema' :: after) :=
    List.rel_append (List.forall₂_same.mpr fun member _ => hrefl member)
      (.cons (hfill inner) (List.forall₂_same.mpr fun member _ => hrefl member))
  cases context with
  | place => exact absurd rfl hne
  | items outer inner =>
      exact { Schema.Parallel.refl hrefl outer with items := .some (hfill inner) }
  | property outer before name inner after =>
      have hproperties : List.Forall₂ (fun p p' : String × Schema => p.1 = p'.1 ∧ related p.2 p'.2)
          (before ++ (name, inner.fill schema) :: after)
          (before ++ (name, inner.fill schema') :: after) :=
        List.rel_append (List.forall₂_same.mpr fun p _ => ⟨rfl, hrefl p.2⟩)
          (.cons ⟨rfl, hfill inner⟩ (List.forall₂_same.mpr fun p _ => ⟨rfl, hrefl p.2⟩))
      exact { Schema.Parallel.refl hrefl outer with properties := hproperties }
  | additional outer inner =>
      exact { Schema.Parallel.refl hrefl outer with additional := .some (.matching (hfill inner)) }
  | allOf outer before inner after =>
      exact { Schema.Parallel.refl hrefl outer with allOf := .some (hmembers before inner after) }
  | oneOf outer before inner after =>
      exact { Schema.Parallel.refl hrefl outer with oneOf := .some (hmembers before inner after) }
  | anyOf outer before inner after =>
      exact { Schema.Parallel.refl hrefl outer with anyOf := .some (hmembers before inner after) }

end SchemaContext

/-! ## Verdicts on parallel schemas -/

namespace Components

variable {components : Components} {related : Schema → Schema → Prop} {value : Json}
  {schema schema' target : Schema} {reference : String} {dispatched : Set String}
  {levels levels' : ℕ} {verdict : Bool} {keyword keyword' : Keyword}

/-- Verdicts of the rules for one schema are also derived for every related one. -/
def Carries (components : Components) (related : Schema → Schema → Prop)
    (levels levels' : ℕ) : Prop :=
  ∀ {value : Json} {schema schema' : Schema} {dispatched : Set String} {verdict : Bool},
    related schema schema' →
    components.Evaluates levels value schema dispatched verdict →
    components.Evaluates levels' value schema' dispatched verdict

/-- What the verdict of a keyword rests on is there for a parallel schema, too. -/
theorem RestsOn.parallel (hrefl : ∀ schema, related schema schema)
    (hparallel : Schema.Parallel related schema schema')
    (hkeyword : Keyword.Rel related keyword keyword')
    (hcarries : components.Carries related levels levels')
    (h : components.RestsOn levels value schema dispatched keyword verdict) :
    components.RestsOn levels' value schema' dispatched keyword' verdict := by
  have hall {members members' : List Schema} {verdict : Bool}
      (hmembers : List.Forall₂ related members members')
      (h : ∀ member ∈ members, components.Evaluates levels value member dispatched verdict) :
      ∀ member ∈ members', components.Evaluates levels' value member dispatched verdict := by
    intro member' hmem'
    obtain ⟨member, hmem, hrelated⟩ := exists_of_forall₂ hmembers.flip hmem'
    exact hcarries hrelated (h member hmem)
  have hsome {members members' : List Schema} {verdict : Bool}
      (hmembers : List.Forall₂ related members members')
      (h : ∃ member ∈ members, components.Evaluates levels value member dispatched verdict) :
      ∃ member ∈ members', components.Evaluates levels' value member dispatched verdict := by
    obtain ⟨member, hmem, hverdict⟩ := h
    obtain ⟨member', hmem', hrelated⟩ := exists_of_forall₂ hmembers hmem
    exact ⟨member', hmem', hcarries hrelated hverdict⟩
  cases hkeyword with
  | reference reference =>
      rcases h with ⟨name, target, hresolves, htarget⟩ | hnone
      · exact Or.inl ⟨name, target, hresolves, hcarries (hrefl target) htarget⟩
      · exact Or.inr hnone
  | allOf hmembers =>
      cases verdict with
      | true => exact hall hmembers h
      | false => exact hsome hmembers h
  | oneOf hmembers =>
      cases verdict with
      | true =>
          obtain ⟨before, member, after, rfl, hmember, hothers⟩ := h
          obtain ⟨before', member', after', rfl, hrelated, hrest⟩ :=
            exists_split_of_forall₂ hmembers
          exact ⟨before', member', after', rfl, hcarries hrelated hmember, hall hrest hothers⟩
      | false =>
          rcases h with hnone | ⟨first, second, hsublist, hfirst, hsecond⟩
          · exact Or.inl (hall hmembers hnone)
          · obtain ⟨_, hsublist', hpair⟩ := exists_sublist_of_forall₂ hmembers hsublist
            obtain _ | ⟨hrelated, _ | ⟨hrelated', _ | _⟩⟩ := hpair
            exact Or.inr ⟨_, _, hsublist', hcarries hrelated hfirst, hcarries hrelated' hsecond⟩
  | anyOf hmembers =>
      cases verdict with
      | true => exact hsome hmembers h
      | false => exact hall hmembers h
  | type =>
      cases verdict with
      | true =>
          refine ⟨hparallel.conforms_iff.mp h.1, ?_⟩
          intro inner innerSchema' hinner'
          obtain ⟨innerSchema, hinner, hrelated⟩ := hparallel.flip.exists_inner hinner'
          exact hcarries hrelated (h.2 inner innerSchema hinner)
      | false =>
          rcases h with hfails | ⟨inner, innerSchema, hinner, hverdict⟩
          · exact Or.inl (mt hparallel.conforms_iff.mpr hfails)
          · obtain ⟨innerSchema', hinner', hrelated⟩ := hparallel.exists_inner hinner
            exact Or.inr ⟨inner, innerSchema', hinner', hcarries hrelated hverdict⟩

/-- A verdict of the rules is also derived for a parallel schema, if verdicts carry over
to related ones, of which every schema is one to itself. -/
theorem Evaluates.parallel (hrefl : ∀ schema, related schema schema)
    (hparallel : Schema.Parallel related schema schema')
    (hcarries : components.Carries related levels levels')
    (h : components.Evaluates (levels + 1) value schema dispatched verdict) :
    components.Evaluates (levels' + 1) value schema' dispatched verdict := by
  rw [evaluates_succ_iff] at h ⊢
  rw [← hparallel.isExempt_iff]
  rcases h with hexempt | ⟨hlive, hrefused, hverdict⟩ | ⟨name, target, hlive, hselected, htarget⟩ |
    ⟨keyword, ⟨isReentry, hlive, hdispatches⟩, hrests⟩
  · exact .inl hexempt
  · exact .inr (.inl ⟨hlive, hparallel.dispatches_iff.mp hrefused, hverdict⟩)
  · exact .inr (.inr (.inl ⟨name, target, hlive, hparallel.dispatches_iff.mp hselected,
      hcarries (hrefl target) htarget⟩))
  · have hlive' := mt hparallel.isExempt_iff.mpr hlive
    exact .inr (.inr (.inr ⟨_, .intro isReentry hlive' (hparallel.dispatches_iff.mp hdispatches),
      hrests.parallel hrefl hparallel (hparallel.keyword isReentry) hcarries⟩))

/-! ## References and what they name -/

/-- The schemas are equal, or one context makes them of a reference and of the schema that
the reference names. -/
def IsInlined (reference : String) (target schema schema' : Schema) : Prop :=
  schema = schema' ∨
    ∃ context : SchemaContext,
      context.fill { ref := some reference } = schema ∧ context.fill target = schema'

theorem IsInlined.cases (h : IsInlined reference target schema schema') :
    schema = { ref := some reference } ∧ schema' = target ∨
      Schema.Parallel (IsInlined reference target) schema schema' := by
  have hrefl (schema : Schema) : IsInlined reference target schema schema := Or.inl rfl
  rcases h with rfl | ⟨context, rfl, rfl⟩
  · exact Or.inr (Schema.Parallel.refl hrefl schema)
  · by_cases hplace : context = .place
    · subst hplace
      exact Or.inl ⟨rfl, rfl⟩
    · exact Or.inr (context.parallel_fill hrefl (fun inner => Or.inr ⟨inner, rfl, rfl⟩) hplace)

/-- The verdict on a reference alone is that on the schema which it names, one level
below. -/
theorem Evaluates.of_reference {name : String}
    (hresolves : components.Resolves reference name target)
    (h : components.Evaluates (levels + 1) value { ref := some reference } dispatched verdict) :
    components.Evaluates levels value target dispatched verdict := by
  rcases evaluates_succ_iff.mp h with ⟨⟨-, hnullable⟩, -⟩ | ⟨-, hrefused, -⟩ |
    ⟨name', target', -, hselected, -⟩ | ⟨keyword, ⟨isReentry, -, -⟩, hrests⟩
  · cases hnullable
  · cases hrefused with
    | refused hsome => cases hsome
  · cases hselected with
    | selected hsome => cases hsome
  · obtain ⟨name', target', hresolves', htarget⟩ | ⟨-, hnone⟩ := hrests
    · rwa [hresolves.unique hresolves']
    · exact absurd hresolves (hnone name target)

/-- Verdicts carry over from schemas with a reference to those in which it is replaced.
The induction is on the levels: at the place itself one of them is left over, and around
it the schemas are parallel. -/
theorem carries_isInlined {name : String} (hresolves : components.Resolves reference name target)
    (hlevels : levels ≤ levels') :
    components.Carries (IsInlined reference target) levels levels' := by
  induction levels generalizing levels' with
  | zero =>
      intro value schema schema' dispatched verdict _ h
      cases h
  | succ levels ih =>
      intro value schema schema' dispatched verdict hinlined h
      obtain ⟨levels', rfl⟩ := Nat.exists_eq_succ_of_ne_zero (Nat.ne_zero_of_lt hlevels)
      rcases hinlined.cases with ⟨rfl, rfl⟩ | hparallel
      · exact ih (Nat.le_of_succ_le hlevels) (Or.inl rfl) (h.of_reference hresolves)
      · exact h.parallel (fun _ => Or.inl rfl) hparallel (ih (Nat.le_of_succ_le_succ hlevels))

/-- In whichever place a reference stands, the verdict is the same with the schema that it
names in its place, if the rules reach one for the reference within the depth of the
evaluation. -/
theorem accepts_fill_reference (hresolves : components.schema? reference = some target)
    (context : SchemaContext) (value : Json)
    (hsettles : components.SettlesInDepth value (context.fill { ref := some reference })) :
    components.SettlesInDepth value (context.fill target) ∧
      components.accepts value (context.fill target) =
        components.accepts value (context.fill { ref := some reference }) := by
  obtain ⟨name, hnamed⟩ := schema?_eq_some_iff.mp hresolves
  obtain ⟨levels, verdict, hlevels, hreference⟩ := hsettles
  have htarget : components.Evaluates levels value (context.fill target) ∅ verdict :=
    carries_isInlined hnamed (Nat.le_refl levels) (Or.inr ⟨context, rfl, rfl⟩) hreference
  refine ⟨⟨levels, verdict, hlevels, htarget⟩, ?_⟩
  rw [accepts, htarget.acceptsWithin_eq hlevels (by simp), accepts,
    hreference.acceptsWithin_eq hlevels (by simp)]

/-! ### Either a flag or an array of arrays -/

/-- Objects that hold, as one of their members, either a flag or what is left open. -/
def flagOrPlace : SchemaContext :=
  .property { type := some .object } [("name", { type := some .string })] "nested"
    (.oneOf {} [{ type := some .boolean }] .place []) []

/-- An object with an array of arrays. -/
def nestedObject : Json :=
  .object [("nested", nestedArray 2)]

theorem settlesInDepth_nestedObject :
    arrayTrees.SettlesInDepth nestedObject (flagOrPlace.fill arrayTree) := by
  have hstringless : arrayTrees.WrapsAtMost nestedObject (flagOrPlace.fill arrayTree) 0 :=
    wrapsAtMost_zero (by rfl)
  have hwithin := hstringless.within cycle?_arrayTrees
  have hbound : arrayTrees.descentBound nestedObject (flagOrPlace.fill arrayTree) 0 = 40 := by
    rfl
  refine ⟨_, _, ?_, setOf_mem_nil ▸ hwithin.evaluates⟩
  rw [hbound]
  decide

/-- The array of arrays is accepted as one of two alternatives, whether the second one is
the reference or the schema of arrays itself. -/
theorem accepts_fill_reference_nestedObject :
    arrayTrees.schema? "#/components/schemas/Tree" = some arrayTreeItems ∧
      arrayTrees.accepts nestedObject (flagOrPlace.fill arrayTreeItems) =
        arrayTrees.accepts nestedObject (flagOrPlace.fill arrayTree) ∧
      arrayTrees.accepts nestedObject (flagOrPlace.fill arrayTree) = true := by
  have hresolves : arrayTrees.schema? "#/components/schemas/Tree" = some arrayTreeItems :=
    schema?_eq_some_iff.mpr ⟨"Tree", resolves_arrayTreeItems⟩
  obtain ⟨-, hsame⟩ := accepts_fill_reference hresolves flagOrPlace nestedObject
    settlesInDepth_nestedObject
  exact ⟨hresolves, hsame, by rfl⟩

end Components
end ApiContract
