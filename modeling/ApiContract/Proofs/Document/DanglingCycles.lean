import ApiContract.Proofs.Document.CycleSearch
import ApiContract.Proofs.Schema.Chains

/-!
# Cycles through dangling references

`Components.schema?` finds a component by the whole reference, and a reference that it
does not resolve dangles.  The search for cycles goes by the last segment of a reference
alone, so a dangling reference makes an edge as well when its last segment happens to be
the name of a component.

The main statement says when this matters.  A cycle of resolved references is always
found, and without such dangling references nothing else is.  A cycle is found where
there is none exactly if the resolved references form no cycle and a dangling one lies on
a cycle of last segments.
-/

namespace ApiContract

/-! ## References to the same value -/

/-- A schema applies a reference to the value that it is applied to itself: it is its
own, or that of a member of `allOf`, or that of an alternative when no discriminator takes
the place of these. -/
inductive Schema.Applies : Schema → String → Prop
  | ref {schema : Schema} {reference : String} (href : schema.ref = some reference) :
      Applies schema reference
  | allOf {schema member : Schema} {members : List Schema} {reference : String}
      (hall : schema.allOf = some members) (hmem : member ∈ members)
      (happlies : Applies member reference) : Applies schema reference
  | alternative {schema member : Schema} {members : List Schema} {reference : String}
      (hplain : schema.discriminator = none)
      (halternative : schema.oneOf = some members ∨ schema.anyOf = some members)
      (hmem : member ∈ members) (happlies : Applies member reference) :
      Applies schema reference

/-- What a schema applies is collected by its last segment. -/
theorem Schema.Applies.refName_mem {schema : Schema} {reference : String}
    (h : schema.Applies reference) : refName reference ∈ schema.sameValueRefs := by
  induction h with
  | ref href => exact refName_mem_sameValueRefs href
  | @allOf schema member members reference hall hmem happlies ih =>
      obtain ⟨keywords, properties, items, allOf, oneOf, anyOf, additional⟩ := schema
      obtain rfl : allOf = some members := hall
      rw [sameValueRefs, List.append_assoc, List.mem_append, List.mem_append]
      exact Or.inr (Or.inl (sameValueRefs_subset_refsOfSchemas hmem ih))
  | @alternative schema member members reference hplain halternative hmem happlies ih =>
      obtain ⟨keywords, properties, items, allOf, oneOf, anyOf, additional⟩ := schema
      have hnone : keywords.discriminator = none := hplain
      have hrefs := sameValueRefs_subset_refsOfSchemas hmem ih
      rw [sameValueRefs, List.append_assoc, List.mem_append, List.mem_append]
      refine Or.inr (Or.inr ?_)
      simp only [hnone, Option.isSome_none, Bool.false_eq_true, if_false, List.mem_append]
      rcases halternative with rfl | rfl
      · exact Or.inl hrefs
      · exact Or.inr hrefs

mutual
/-- Every last segment that is collected is that of a reference that the schema
applies. -/
theorem Schema.exists_applies {name : String} : (schema : Schema) →
    name ∈ schema.sameValueRefs → ∃ reference, schema.Applies reference ∧ refName reference = name
  | ⟨keywords, properties, items, allOf, oneOf, anyOf, additional⟩ => by
      intro h
      rw [Schema.sameValueRefs, List.append_assoc, List.mem_append, List.mem_append] at h
      rcases h with hown | hall | halternative
      · obtain ⟨reference, href, rfl⟩ := by simpa using hown
        exact ⟨reference, .ref href, rfl⟩
      · obtain ⟨members, hmembers, member, hmem, reference, happlies, hname⟩ :=
          exists_applies_of_members allOf hall
        exact ⟨reference, .allOf hmembers hmem happlies, hname⟩
      · cases hplain : keywords.discriminator with
        | some discriminator => simp [hplain] at halternative
        | none =>
            simp only [hplain, Option.isSome_none, Bool.false_eq_true, if_false,
              List.mem_append] at halternative
            rcases halternative with hone | hany
            · obtain ⟨members, hmembers, member, hmem, reference, happlies, hname⟩ :=
                exists_applies_of_members oneOf hone
              exact ⟨reference, .alternative hplain (Or.inl hmembers) hmem happlies, hname⟩
            · obtain ⟨members, hmembers, member, hmem, reference, happlies, hname⟩ :=
                exists_applies_of_members anyOf hany
              exact ⟨reference, .alternative hplain (Or.inr hmembers) hmem happlies, hname⟩

theorem exists_applies_of_members {name : String} : (members : Option (List Schema)) →
    name ∈ refsOfMembers members → ∃ schemas, members = some schemas ∧
      ∃ member ∈ schemas, ∃ reference, member.Applies reference ∧ refName reference = name
  | none => by
      intro h
      cases h
  | some schemas => by
      intro h
      exact ⟨schemas, rfl, exists_applies_of_schemas schemas h⟩

theorem exists_applies_of_schemas {name : String} : (schemas : List Schema) →
    name ∈ refsOfSchemas schemas →
      ∃ member ∈ schemas, ∃ reference, member.Applies reference ∧ refName reference = name
  | [] => by
      intro h
      cases h
  | schema :: rest => by
      intro h
      rw [refsOfSchemas, List.mem_append] at h
      rcases h with hfirst | hrest
      · exact ⟨schema, List.mem_cons_self, schema.exists_applies hfirst⟩
      · obtain ⟨member, hmem, hmember⟩ := exists_applies_of_schemas rest hrest
        exact ⟨member, List.mem_cons_of_mem _ hmem, hmember⟩
end

theorem Schema.mem_sameValueRefs_iff {schema : Schema} {name : String} :
    name ∈ schema.sameValueRefs ↔
      ∃ reference, schema.Applies reference ∧ refName reference = name := by
  constructor
  · exact schema.exists_applies
  · rintro ⟨reference, happlies, rfl⟩
    exact happlies.refName_mem

namespace Components

variable {components : Components} {source target : String}

/-! ## Edges that are resolved and edges that dangle -/

/-- A component applies a reference that is resolved as another component. -/
def Refers (components : Components) (source target : String) : Prop :=
  ∃ schema reference found, components.schemas.lookup source = some schema ∧
    schema.Applies reference ∧ components.Resolves reference target found

/-- A component applies a reference that dangles, although its last segment is the name
of another component. -/
def Misreads (components : Components) (source target : String) : Prop :=
  ∃ schema reference, components.schemas.lookup source = some schema ∧
    schema.Applies reference ∧ components.schema? reference = none ∧
      refName reference = target ∧ target ∈ components.schemas.map (·.1)

/-- An edge is one of the two. -/
theorem edge_iff :
    components.Edge source target ↔
      components.Refers source target ∨ components.Misreads source target := by
  constructor
  · rintro ⟨schema, hlookup, htarget, hdeclared⟩
    obtain ⟨reference, happlies, rfl⟩ := Schema.mem_sameValueRefs_iff.mp htarget
    cases hfound : components.schema? reference with
    | none => exact Or.inr ⟨schema, reference, hlookup, happlies, hfound, rfl, hdeclared⟩
    | some found =>
        obtain ⟨name, hresolves⟩ := schema?_eq_some_iff.mp hfound
        rw [hresolves.refName_eq]
        exact Or.inl ⟨schema, reference, found, hlookup, happlies, hresolves⟩
  · rintro (⟨schema, reference, found, hlookup, happlies, hresolves⟩ |
      ⟨schema, reference, hlookup, happlies, -, rfl, hdeclared⟩)
    · have htarget : target ∈ schema.sameValueRefs := hresolves.refName_eq ▸ happlies.refName_mem
      exact ⟨schema, hlookup, htarget, mem_names_iff.mpr ⟨found, hresolves.declared⟩⟩
    · exact ⟨schema, hlookup, happlies.refName_mem, hdeclared⟩

theorem Refers.edge (h : components.Refers source target) : components.Edge source target :=
  edge_iff.mpr (Or.inl h)

theorem Misreads.edge (h : components.Misreads source target) :
    components.Edge source target :=
  edge_iff.mpr (Or.inr h)

/-- A path of edges is one of resolved references, or goes through a dangling one. -/
theorem transGen_edge_cases (h : Relation.TransGen components.Edge source target) :
    Relation.TransGen components.Refers source target ∨
      ∃ before after, components.Misreads before after ∧
        Relation.ReflTransGen components.Edge source before ∧
          Relation.ReflTransGen components.Edge after target := by
  induction h with
  | single hedge =>
      rcases edge_iff.mp hedge with hrefers | hmisreads
      · exact Or.inl (.single hrefers)
      · exact Or.inr ⟨_, _, hmisreads, .refl, .refl⟩
  | tail hpath hedge ih =>
      rcases ih with hrefers | ⟨before, after, hmisreads, hbefore, hafter⟩
      · rcases edge_iff.mp hedge with hlast | hmisreads
        · exact Or.inl (hrefers.tail hlast)
        · exact Or.inr ⟨_, _, hmisreads, hpath.to_reflTransGen, .refl⟩
      · exact Or.inr ⟨before, after, hmisreads, hbefore, hafter.tail hedge⟩

/-! ## What the search finds -/

/-- Some component reaches itself by references that are resolved. -/
def HasCycle (components : Components) : Prop :=
  ∃ name, Relation.TransGen components.Refers name name

/-- A dangling reference lies on a cycle of last segments. -/
def MisreadsCycle (components : Components) : Prop :=
  ∃ source target, components.Misreads source target ∧
    Relation.ReflTransGen components.Edge target source

/-- The search finds a cycle exactly if there is one, or a dangling reference passes for
a part of one. -/
theorem exists_cycle?_iff :
    (∃ name, components.cycle? = some name) ↔
      components.HasCycle ∨ components.MisreadsCycle := by
  constructor
  · rintro ⟨name, hname⟩
    rcases transGen_edge_cases (transGen_self_of_cycle?_eq_some hname) with
      hrefers | ⟨before, after, hmisreads, hbefore, hafter⟩
    · exact Or.inl ⟨name, hrefers⟩
    · exact Or.inr ⟨before, after, hmisreads, hafter.trans hbefore⟩
  · intro h
    have hcycle : ∃ name, Relation.TransGen components.Edge name name := by
      rcases h with ⟨name, hrefers⟩ | ⟨source, target, hmisreads, hback⟩
      · exact ⟨name, Relation.TransGen.mono (fun _ _ => Refers.edge) _ _ hrefers⟩
      · exact ⟨source, .head' hmisreads.edge hback⟩
    obtain ⟨name, hname⟩ := hcycle
    rw [← Option.ne_none_iff_exists']
    intro hnone
    exact not_transGen_self_of_cycle?_eq_none hnone name hname

/-- Where a cycle is found, there is one of resolved references, except if there is none
and a dangling reference passes for a part of one.  A cycle of resolved references is
found in any case, and where no dangling reference passes for an edge, the component that
is found reaches itself by resolved references. -/
theorem cycle?_sound_iff (components : Components) :
    ((∀ name, components.cycle? = some name → components.HasCycle) ↔
        ¬(¬components.HasCycle ∧ components.MisreadsCycle)) ∧
      (components.HasCycle → ∃ name, components.cycle? = some name) ∧
      ((∀ source target, ¬components.Misreads source target) →
        ∀ name, components.cycle? = some name →
          Relation.TransGen components.Refers name name) := by
  refine ⟨⟨?_, ?_⟩, ?_, ?_⟩
  · rintro hsound ⟨hacyclic, hmisreads⟩
    obtain ⟨name, hname⟩ := exists_cycle?_iff.mpr (Or.inr hmisreads)
    exact hacyclic (hsound name hname)
  · intro hexception name hname
    rcases exists_cycle?_iff.mp ⟨name, hname⟩ with hcycle | hmisreads
    · exact hcycle
    · by_contra hacyclic
      exact hexception ⟨hacyclic, hmisreads⟩
  · intro hcycle
    exact exists_cycle?_iff.mpr (Or.inl hcycle)
  · intro hread name hname
    rcases transGen_edge_cases (transGen_self_of_cycle?_eq_some hname) with
      hrefers | ⟨before, after, hmisreads, -, -⟩
    · exact hrefers
    · exact absurd hmisreads (hread before after)

/-! ### A component that is taken from another file -/

/-- Pets are those of another file. -/
def importedPets : Components where
  schemas := [("Pet", { ref := some "pets.yaml#/components/schemas/Pet" })]

theorem schema?_importedPets :
    importedPets.schema? "pets.yaml#/components/schemas/Pet" = none := by rfl

/-- Pets are found as a cycle, although their reference leads nowhere. -/
theorem importedPets_misread :
    importedPets.cycle? = some "Pet" ∧
      importedPets.schema? "pets.yaml#/components/schemas/Pet" = none ∧
        ¬importedPets.HasCycle := by
  refine ⟨by decide +kernel, schema?_importedPets, ?_⟩
  rintro ⟨name, hcycle⟩
  obtain ⟨next, ⟨schema, reference, found, hlookup, happlies, hresolves⟩, -⟩ :=
    Relation.TransGen.head'_iff.mp hcycle
  obtain ⟨rfl, rfl⟩ : name = "Pet" ∧
      schema = { ref := some "pets.yaml#/components/schemas/Pet" } := by
    simpa [importedPets] using mem_of_lookup hlookup
  have hdangles : reference = "pets.yaml#/components/schemas/Pet" := by
    cases happlies with
    | ref href => exact (Option.some.inj href).symm
    | allOf hall _ _ => cases hall
    | alternative _ halternative _ _ => rcases halternative with hone | hany <;> contradiction
  have hfound := schema?_eq_some_iff.mpr ⟨next, hresolves⟩
  rw [hdangles, schema?_importedPets] at hfound
  cases hfound

end Components
end ApiContract
