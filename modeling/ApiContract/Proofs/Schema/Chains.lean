import ApiContract.Proofs.Document.Cycles
import ApiContract.Proofs.Schema.Evaluation
import Mathlib.Data.List.MinMax
import Mathlib.Data.List.Nodup

/-!
# Judgements of one value

A judgement may ask for another one of the same value, and that one for a third.  In
components without cycles such a chain comes to an end, whatever the value and however
deep evaluations may go: it dispatches to no component twice, and from one dispatch to
the next it follows the graph of `Components.Edge`, where no component comes twice.
-/

namespace ApiContract

/-! ## Compositions -/

/-- A member of the composition that decides is a member of `allOf`, or else an
alternative and not in a re-entry. -/
theorem Schema.mem_members_cases {schema member : Schema} {isReentry : Bool}
    (h : member ∈ (schema.keyword isReentry).members) :
    (∃ members, schema.allOf = some members ∧ member ∈ members) ∨
      isReentry = false ∧
        ∃ members, (schema.oneOf = some members ∨ schema.anyOf = some members) ∧
          member ∈ members := by
  cases href : schema.ref with
  | some reference => simp [keyword, href, Keyword.members] at h
  | none =>
      cases hall : schema.allOf with
      | some members =>
          simp only [keyword, href, hall, Keyword.members] at h
          exact Or.inl ⟨members, rfl, h⟩
      | none =>
          cases isReentry with
          | true => simp [keyword, href, hall, Keyword.members] at h
          | false =>
              refine Or.inr ⟨rfl, ?_⟩
              cases hone : schema.oneOf with
              | some members =>
                  simp only [keyword, href, hall, hone, Keyword.members] at h
                  exact ⟨members, Or.inl rfl, by simpa using h⟩
              | none =>
                  cases hany : schema.anyOf with
                  | some members =>
                      simp only [keyword, href, hall, hone, hany, Keyword.members] at h
                      exact ⟨members, Or.inr rfl, by simpa using h⟩
                  | none => simp [keyword, href, hall, hone, hany, Keyword.members] at h

theorem Schema.ref_eq_of_keyword {schema : Schema} {isReentry : Bool} {reference : String}
    (h : schema.keyword isReentry = .reference reference) :
    schema.ref = some reference := by
  cases href : schema.ref with
  | some other =>
      simp only [keyword, href, Keyword.reference.injEq] at h
      rw [h]
  | none =>
      cases isReentry <;> cases hall : schema.allOf <;> cases hone : schema.oneOf <;>
        cases hany : schema.anyOf <;> simp [keyword, href, hall, hone, hany] at h

theorem sameValueRefs_subset_refsOfSchemas {member : Schema} {schemas : List Schema}
    (h : member ∈ schemas) : member.sameValueRefs ⊆ refsOfSchemas schemas := by
  induction schemas with
  | nil => cases h
  | cons schema rest ih =>
      intro name hname
      rw [refsOfSchemas, List.mem_append]
      rcases List.mem_cons.mp h with rfl | h
      · exact Or.inl hname
      · exact Or.inr (ih h hname)

/-- The reference that a schema follows is one of its edges. -/
theorem Schema.refName_mem_sameValueRefs {schema : Schema} {reference : String}
    (h : schema.ref = some reference) : refName reference ∈ schema.sameValueRefs := by
  obtain ⟨keywords, properties, items, allOf, oneOf, anyOf, additional⟩ := schema
  have href : keywords.ref = some reference := h
  simp [sameValueRefs, href]

/-- What a member refers to, the schema refers to as well.  Under a discriminator this
holds because alternatives are skipped in a re-entry. -/
theorem Schema.sameValueRefs_subset_of_mem {schema member : Schema} {isReentry : Bool}
    (hmem : member ∈ (schema.keyword isReentry).members)
    (hplain : isReentry = false → schema.discriminator = none) :
    member.sameValueRefs ⊆ schema.sameValueRefs := by
  have hcases := mem_members_cases hmem
  obtain ⟨keywords, properties, items, allOf, oneOf, anyOf, additional⟩ := schema
  intro name hname
  rw [sameValueRefs, List.append_assoc, List.mem_append, List.mem_append]
  rcases hcases with ⟨members, rfl, hmember⟩ | ⟨hfalse, members, halternative, hmember⟩
  · exact Or.inr (Or.inl (sameValueRefs_subset_refsOfSchemas hmember hname))
  · have hnone : keywords.discriminator = none := hplain hfalse
    have hrefs := sameValueRefs_subset_refsOfSchemas hmember hname
    refine Or.inr (Or.inr ?_)
    simp only [hnone, Option.isSome_none, Bool.false_eq_true, if_false, List.mem_append]
    rcases halternative with rfl | rfl
    · exact Or.inl hrefs
    · exact Or.inr hrefs

mutual
/-- How deep compositions are nested in a schema. -/
def Schema.compositionDepth : Schema → ℕ
  | ⟨_, _, _, allOf, oneOf, anyOf, _⟩ =>
      max (depthOfMembers allOf) (max (depthOfMembers oneOf) (depthOfMembers anyOf))

/-- How deep compositions are nested in a composition, which counts itself. -/
def depthOfMembers : Option (List Schema) → ℕ
  | none => 0
  | some schemas => depthOfSchemas schemas

/-- One more than the depth of the deepest schema. -/
def depthOfSchemas : List Schema → ℕ
  | [] => 0
  | schema :: rest => max (schema.compositionDepth + 1) (depthOfSchemas rest)
end

theorem compositionDepth_lt_depthOfSchemas {member : Schema} {schemas : List Schema}
    (h : member ∈ schemas) : member.compositionDepth < depthOfSchemas schemas := by
  induction schemas with
  | nil => cases h
  | cons schema rest ih =>
      rw [depthOfSchemas]
      rcases List.mem_cons.mp h with rfl | h
      · exact lt_max_of_lt_left (Nat.lt_succ_self _)
      · exact lt_max_of_lt_right (ih h)

theorem Schema.compositionDepth_lt_of_mem {schema member : Schema} {isReentry : Bool}
    (hmem : member ∈ (schema.keyword isReentry).members) :
    member.compositionDepth < schema.compositionDepth := by
  have hcases := mem_members_cases hmem
  obtain ⟨keywords, properties, items, allOf, oneOf, anyOf, additional⟩ := schema
  rw [compositionDepth]
  rcases hcases with ⟨members, rfl, hmember⟩ | ⟨-, members, rfl | rfl, hmember⟩
  · exact lt_max_of_lt_left (compositionDepth_lt_depthOfSchemas hmember)
  · exact lt_max_of_lt_right (lt_max_of_lt_left (compositionDepth_lt_depthOfSchemas hmember))
  · exact lt_max_of_lt_right
      (lt_max_of_lt_right (compositionDepth_lt_depthOfSchemas hmember))

/-! ## Stretches -/

namespace Link

/-- The component that a discriminator dispatches to. -/
def dispatched? : Link → Option String
  | .dispatch name => some name
  | .reference _ | .member | .inner => none

/-- The component that is entered, by a dispatch or by a reference. -/
def entered? : Link → Option String
  | .dispatch name | .reference name => some name
  | .member | .inner => none

/-- Links from one dispatch to the next: only the first of them may be a dispatch. -/
def IsStretch (links : List Link) : Prop :=
  ∀ link ∈ links.tail, link.dispatched? = none

end Link

/-- If at most `bound` elements of every stretch count, where a stretch is opened by an
element with `p` and has no other, then so many count in all stretches together.  The
stretch at which a list has arrived stands before the rest. -/
theorem countP_append_le_of_stretches {α : Type} {p q : α → Bool} {bound : ℕ}
    {list : List α} (stretch : List α) (hstretch : ∀ a ∈ stretch.tail, p a = false)
    (h : ∀ other, other <:+: stretch ++ list → (∀ a ∈ other.tail, p a = false) →
      other.countP q ≤ bound) :
    (stretch ++ list).countP q ≤ (list.countP p + 1) * bound := by
  induction list generalizing stretch with
  | nil => simpa using h stretch (by simp) hstretch
  | cons a rest ih =>
      cases ha : p a with
      | true =>
          have hfirst := h stretch (List.infix_append' [] _ _) hstretch
          have hrest := ih [a] (by simp) fun other hother =>
            h other (hother.trans (List.suffix_append stretch (a :: rest)).isInfix)
          rw [List.singleton_append] at hrest
          rw [List.countP_append, List.countP_cons_of_pos ha, Nat.add_mul _ 1]
          omega
      | false =>
          have hlonger : ∀ b ∈ (stretch ++ [a]).tail, p b = false := by
            cases stretch with
            | nil => simp
            | cons first others =>
                intro b hb
                rcases List.mem_append.mp hb with hb | hb
                · exact hstretch b hb
                · rwa [List.mem_singleton.mp hb]
          have hrest := ih (stretch ++ [a]) hlonger (by simpa using h)
          rw [List.append_assoc, List.singleton_append] at hrest
          rwa [List.countP_cons_of_neg (by simp [ha])]

theorem countP_le_of_stretches {α : Type} {p q : α → Bool} {bound : ℕ} {list : List α}
    (h : ∀ stretch, stretch <:+: list → (∀ a ∈ stretch.tail, p a = false) →
      stretch.countP q ≤ bound) :
    list.countP q ≤ (list.countP p + 1) * bound :=
  countP_append_le_of_stretches [] (by simp) h

theorem Link.IsStretch.left {links links' : List Link} (h : IsStretch (links ++ links')) :
    IsStretch links := by
  cases links with
  | nil => simp [IsStretch]
  | cons first rest =>
      intro link hlink
      exact h link (List.mem_append_left _ hlink)

/-- A dispatch opens its stretch. -/
theorem Link.IsStretch.eq_nil_of_dispatch {links : List Link} {name : String}
    (h : IsStretch (links ++ [.dispatch name])) : links = [] := by
  cases links with
  | nil => rfl
  | cons first rest => cases h (.dispatch name) (List.mem_append_right _ (by simp))

/-! ## Chains -/

namespace Components

/-- Nested judgements of one value, from the judgement by `root` to the one that the
last link leads to. -/
inductive Chain (components : Components) (value : Json) (root : Schema) :
    List Link → Schema → List String → Prop where
  | root : Chain components value root [] root []
  | call {links : List Link} {link : Link} {schema schema' : Schema}
      {dispatched dispatched' : List String} :
      Chain components value root links schema dispatched →
      link ≠ .inner →
      components.Call value schema dispatched link value schema' dispatched' →
      Chain components value root (links ++ [link]) schema' dispatched'

variable {components : Components} {value : Json} {root schema : Schema}
  {links : List Link} {dispatched : List String}

theorem Chain.exists_call {link : Link}
    (h : components.Chain value root (links ++ [link]) schema dispatched) :
    ∃ schema' dispatched', components.Chain value root links schema' dispatched' ∧
      link ≠ .inner ∧
        components.Call value schema' dispatched' link value schema dispatched := by
  generalize hall : links ++ [link] = all at h
  cases h with
  | root => simp at hall
  | @call before last schema' _ dispatched' _ hchain hlink hcall =>
      obtain ⟨rfl, hlast⟩ := List.append_inj' hall rfl
      obtain rfl : link = last := List.singleton_inj.mp hlast
      exact ⟨schema', dispatched', hchain, hlink, hcall⟩

/-- The links before others lead to a judgement too. -/
theorem Chain.left {after : List Link}
    (h : components.Chain value root (links ++ after) schema dispatched) :
    ∃ schema' dispatched', components.Chain value root links schema' dispatched' := by
  induction after using List.reverseRecOn generalizing schema dispatched with
  | nil => exact ⟨schema, dispatched, by simpa using h⟩
  | append_singleton after link ih =>
      rw [← List.append_assoc] at h
      obtain ⟨schema', dispatched', hchain, -, -⟩ := h.exists_call
      exact ih hchain

/-! ## What one judgement leads to -/

theorem discriminator_eq_none_of_absent
    (h : components.dispatch schema value dispatched = .absent) :
    schema.discriminator = none := by
  have hrule := dispatches_dispatch components schema value dispatched
  rw [h] at hrule
  cases hrule with
  | absent hnone => exact hnone

/-- A selected component is declared and has not been dispatched to before. -/
theorem lookup_and_not_mem_of_selected {name : String} {target : Schema}
    (h : components.dispatch schema value dispatched = .selected name target) :
    components.schemas.lookup name = some target ∧ name ∉ dispatched := by
  have hrule := dispatches_dispatch components schema value dispatched
  rw [h] at hrule
  cases hrule with
  | selected _ hselects hfresh =>
      cases hselects with
      | intro _ _ hresolves => exact ⟨hresolves.declared, hfresh⟩

/-- The references of a member are among those of the schema, whatever its discriminator
does. -/
theorem sameValueRefs_subset_of_goesOn {member : Schema} {isReentry : Bool}
    (hdispatch : components.dispatch schema value dispatched = goesOn isReentry)
    (hmem : member ∈ (schema.keyword isReentry).members) :
    member.sameValueRefs ⊆ schema.sameValueRefs := by
  apply Schema.sameValueRefs_subset_of_mem hmem
  rintro rfl
  exact discriminator_eq_none_of_absent hdispatch

/-! ## Dispatches -/

/-- The components in the state of a chain are those that its links dispatch to. -/
theorem Chain.dispatched_eq (h : components.Chain value root links schema dispatched) :
    dispatched = (links.filterMap Link.dispatched?).reverse := by
  induction h with
  | root => rfl
  | call hchain hlink hcall ih =>
      rw [List.filterMap_append, List.reverse_append, ← ih]
      cases hcall with
      | dispatch _ _ => rfl
      | reference _ _ _ _ => rfl
      | member _ _ _ => rfl
      | inner _ _ _ _ => contradiction

/-- The components in the state of a chain are declared and different ones. -/
theorem Chain.dispatched_nodup (h : components.Chain value root links schema dispatched) :
    dispatched.Nodup ∧ dispatched ⊆ components.schemas.map (·.1) := by
  induction h with
  | root => simp
  | call hchain hlink hcall ih =>
      cases hcall with
      | dispatch _ hdispatch =>
          obtain ⟨hdeclared, hfresh⟩ := lookup_and_not_mem_of_selected hdispatch
          exact ⟨List.nodup_cons.mpr ⟨hfresh, ih.1⟩,
            List.cons_subset.mpr ⟨mem_names_iff.mpr ⟨_, hdeclared⟩, ih.2⟩⟩
      | reference _ _ _ _ => exact ih
      | member _ _ _ => exact ih
      | inner _ _ _ _ => contradiction

/-! ## Stretches of a chain -/

/-- A stretch of a chain follows the edges between components, and the component that it
has entered last refers to all that the schema refers to. -/
theorem Chain.isChain_entered {stretch : List Link}
    (h : components.Chain value root (links ++ stretch) schema dispatched)
    (hstretch : Link.IsStretch stretch) :
    (stretch.filterMap Link.entered?).IsChain components.Edge ∧
      (stretch.filterMap Link.entered?) ⊆ components.schemas.map (·.1) ∧
        ∀ name ∈ (stretch.filterMap Link.entered?).getLast?,
          ∃ entered, components.schemas.lookup name = some entered ∧
            schema.sameValueRefs ⊆ entered.sameValueRefs := by
  induction stretch using List.reverseRecOn generalizing schema dispatched with
  | nil => simp
  | append_singleton stretch link ih =>
      rw [← List.append_assoc] at h
      obtain ⟨schema', dispatched', hchain, hlink, hcall⟩ := h.exists_call
      obtain ⟨hedges, hdeclared, hlast⟩ := ih hchain hstretch.left
      rw [List.filterMap_append]
      cases hcall with
      | @dispatch name _ _ hdispatch =>
          obtain rfl := hstretch.eq_nil_of_dispatch
          obtain ⟨hlookup, -⟩ := lookup_and_not_mem_of_selected hdispatch
          refine ⟨List.isChain_singleton name, ?_, ?_⟩
          · exact List.cons_subset.mpr ⟨mem_names_iff.mpr ⟨_, hlookup⟩, by simp⟩
          · simpa [Link.entered?] using ⟨_, hlookup, List.Subset.refl _⟩
      | @reference isReentry reference name target _ _ hkeyword hresolves =>
          have hname : name ∈ schema'.sameValueRefs :=
            hresolves.refName_eq ▸
              Schema.refName_mem_sameValueRefs (Schema.ref_eq_of_keyword hkeyword)
          have hknown : name ∈ components.schemas.map (·.1) :=
            mem_names_iff.mpr ⟨_, hresolves.declared⟩
          refine ⟨List.isChain_append.mpr ⟨hedges, List.isChain_singleton name, ?_⟩, ?_, ?_⟩
          · intro source hsource target htarget
            obtain rfl : name = target := by simpa [Link.entered?] using htarget
            obtain ⟨entered, hlookup, hrefs⟩ := hlast source hsource
            exact ⟨entered, hlookup, hrefs hname, hknown⟩
          · exact List.append_subset.mpr ⟨hdeclared, List.cons_subset.mpr ⟨hknown, by simp⟩⟩
          · simpa [Link.entered?] using ⟨_, hresolves.declared, List.Subset.refl _⟩
      | member _ hdispatch hmem =>
          rw [show [Link.member].filterMap Link.entered? = [] by rfl, List.append_nil]
          refine ⟨hedges, hdeclared, ?_⟩
          intro name hname
          obtain ⟨entered, hlookup, hrefs⟩ := hlast name hname
          have hmember := sameValueRefs_subset_of_goesOn hdispatch hmem
          exact ⟨entered, hlookup, List.Subset.trans hmember hrefs⟩
      | inner _ _ _ _ => contradiction

/-- The depth of the compositions in `root` and in all components. -/
def compositionDepth (components : Components) (root : Schema) : ℕ :=
  (components.schemas.map (·.2.compositionDepth)).foldr max root.compositionDepth

theorem compositionDepth_root_le (components : Components) (root : Schema) :
    root.compositionDepth ≤ components.compositionDepth root := by
  rw [compositionDepth]
  induction components.schemas with
  | nil => simp
  | cons _ _ ih => exact le_max_of_le_right ih

theorem compositionDepth_le_of_lookup {name : String} {target : Schema}
    (h : components.schemas.lookup name = some target) :
    target.compositionDepth ≤ components.compositionDepth root := by
  apply List.le_max_of_le' _ _ (Nat.le_refl _)
  obtain ⟨before, after, heq, -⟩ := List.lookup_eq_some_iff.mp h
  exact List.mem_map.mpr ⟨(name, target), by simp [heq], rfl⟩

theorem Chain.compositionDepth_le
    (h : components.Chain value root links schema dispatched) :
    schema.compositionDepth ≤ components.compositionDepth root := by
  induction h with
  | root => exact compositionDepth_root_le components root
  | call hchain hlink hcall ih =>
      cases hcall with
      | dispatch _ hdispatch =>
          exact compositionDepth_le_of_lookup (lookup_and_not_mem_of_selected hdispatch).1
      | reference _ _ _ hresolves => exact compositionDepth_le_of_lookup hresolves.declared
      | member _ _ hmem => exact (Schema.compositionDepth_lt_of_mem hmem).le.trans ih
      | inner _ _ _ _ => contradiction

/-- Between two components that are entered, every link goes one composition deeper. -/
theorem Chain.length_add_compositionDepth_le {stretch : List Link}
    (h : components.Chain value root (links ++ stretch) schema dispatched)
    (hstretch : ∀ link ∈ stretch.tail, link.entered? = none) :
    stretch.length + schema.compositionDepth ≤ components.compositionDepth root + 1 := by
  induction stretch using List.reverseRecOn generalizing schema dispatched with
  | nil => simpa using h.compositionDepth_le.trans (Nat.le_succ _)
  | append_singleton stretch link ih =>
      have hdepth := h.compositionDepth_le
      rw [← List.append_assoc] at h
      obtain ⟨schema', dispatched', hchain, hlink, hcall⟩ := h.exists_call
      rw [List.length_append, List.length_singleton]
      cases stretch with
      | nil =>
          rw [List.length_nil]
          omega
      | cons first rest =>
          have hlength := ih hchain fun other hother =>
            hstretch other (List.mem_append_left _ hother)
          have hnone : link.entered? = none :=
            hstretch link (List.mem_append_right _ (by simp))
          cases hcall with
          | dispatch _ _ => simp [Link.entered?] at hnone
          | reference _ _ _ _ => simp [Link.entered?] at hnone
          | member _ _ hmem =>
              have hdeeper := Schema.compositionDepth_lt_of_mem hmem
              omega
          | inner _ _ _ _ => contradiction

/-! ## The length of chains -/

/-- How many links a chain has at most: in each of the stretches, of which there is one
more than components, every component is entered once, and what is below a component or
the root is as deep as their compositions. -/
def chainBound (components : Components) (root : Schema) : ℕ :=
  ((components.schemas.length + 1) * components.schemas.length + 1) *
    (components.compositionDepth root + 1)

/-- Without cycles, no stretch of a chain enters a component twice. -/
theorem Chain.nodup_entered (hacyclic : components.cycle? = none)
    (h : components.Chain value root links schema dispatched) {stretch : List Link}
    (hpart : stretch <:+: links) (hstretch : Link.IsStretch stretch) :
    (stretch.filterMap Link.entered?).Nodup ∧
      (stretch.filterMap Link.entered?) ⊆ components.schemas.map (·.1) := by
  obtain ⟨before, after, rfl⟩ := hpart
  obtain ⟨schema', dispatched', hchain⟩ := h.left
  obtain ⟨hedges, hdeclared, -⟩ := hchain.isChain_entered hstretch
  exact ⟨nodup_of_isChain hacyclic hedges, hdeclared⟩

theorem length_le_of_nodup {names : List String} (hnodup : names.Nodup)
    (hdeclared : names ⊆ components.schemas.map (·.1)) :
    names.length ≤ components.schemas.length := by
  simpa using (List.subperm_of_subset hnodup hdeclared).length_le

/-- Without cycles, a chain enters a component at most once for every stretch. -/
theorem Chain.countP_entered_le (hacyclic : components.cycle? = none)
    (h : components.Chain value root links schema dispatched) :
    links.countP (·.entered?.isSome) ≤
      (components.schemas.length + 1) * components.schemas.length := by
  have hdispatches : links.countP (·.dispatched?.isSome) ≤ components.schemas.length := by
    obtain ⟨hnodup, hdeclared⟩ := h.dispatched_nodup
    have hlength := length_le_of_nodup hnodup hdeclared
    rwa [h.dispatched_eq, List.length_reverse, List.length_filterMap_eq_countP] at hlength
  have hentered : links.countP (·.entered?.isSome) ≤
      (links.countP (·.dispatched?.isSome) + 1) * components.schemas.length := by
    apply countP_le_of_stretches
    intro stretch hpart hstretch
    obtain ⟨hnodup, hdeclared⟩ := h.nodup_entered hacyclic hpart
      fun link hlink => by simpa using hstretch link hlink
    have hlength := length_le_of_nodup hnodup hdeclared
    rwa [List.length_filterMap_eq_countP] at hlength
  exact hentered.trans (Nat.mul_le_mul_right _ (Nat.add_le_add_right hdispatches 1))

/-- Without cycles, the components and the root bound the length of every chain. -/
theorem Chain.length_le (hacyclic : components.cycle? = none)
    (h : components.Chain value root links schema dispatched) :
    links.length ≤ components.chainBound root := by
  have hlinks : links.countP (fun _ => true) ≤
      (links.countP (·.entered?.isSome) + 1) * (components.compositionDepth root + 1) := by
    apply countP_le_of_stretches
    rintro stretch ⟨before, after, rfl⟩ hstretch
    obtain ⟨schema', dispatched', hchain⟩ := h.left
    have hlength := hchain.length_add_compositionDepth_le
      fun link hlink => by simpa using hstretch link hlink
    rw [List.countP_true]
    omega
  rw [List.countP_true] at hlinks
  exact hlinks.trans
    (Nat.mul_le_mul_right _ (Nat.add_le_add_right (h.countP_entered_le hacyclic) 1))

/-- In components without cycles, a chain of judgements of one value dispatches to no
component twice, enters no component twice from one dispatch to the next, and is no
longer than the components and the root allow. -/
theorem chain_bounded (hacyclic : components.cycle? = none)
    (h : components.Chain value root links schema dispatched) :
    (links.filterMap Link.dispatched?).Nodup ∧
      (∀ stretch, stretch <:+: links → Link.IsStretch stretch →
        (stretch.filterMap Link.entered?).Nodup) ∧
        links.length ≤ components.chainBound root := by
  refine ⟨?_, ?_, h.length_le hacyclic⟩
  · have hnodup := h.dispatched_nodup.1
    rwa [h.dispatched_eq, List.nodup_reverse] at hnodup
  · intro stretch hpart hstretch
    exact (h.nodup_entered hacyclic hpart hstretch).1

/-- A reference to the description of pets. -/
def petReference : Schema where
  ref := some "Pet"

/-- From pets to dogs and back. -/
def petLinks : List Link :=
  [.reference "Pet", .dispatch "Dog", .member, .reference "Pet"]

/-- The description of pets is entered for a dog on its own, and once more from that of
dogs. -/
theorem chain_petLinks :
    petComponents.Chain dogValue petReference petLinks petSchema ["Dog"] := by
  have hlive (schema : Schema) : ¬IsExempt dogValue schema := by
    simp [IsExempt, dogValue]
  have hpet : petComponents.Resolves "Pet" "Pet" petSchema :=
    ⟨by decide, Or.inr rfl, by rfl⟩
  have hdispatch :
      petComponents.dispatch petSchema dogValue [] = .selected "Dog" dogSchema := by
    rfl
  have hplain (schema : Schema) (dispatched : List String)
      (hnone : schema.discriminator = none) :
      petComponents.dispatch schema dogValue dispatched = goesOn false := by
    simp [dispatch, hnone, goesOn]
  have hentered := Chain.root.call (by decide)
    (.reference (hlive petReference) (hplain petReference [] rfl) rfl hpet)
  have hdispatched := hentered.call (by decide) (.dispatch (hlive petSchema) hdispatch)
  have hmember := hdispatched.call (by decide)
    (.member (hlive dogSchema) (hplain dogSchema ["Dog"] rfl) List.mem_cons_self)
  exact hmember.call (by decide) (.reference (hlive _) (hplain _ ["Dog"] rfl) rfl hpet)

theorem cycle?_petComponents : petComponents.cycle? = none := by
  have hsorted : petComponents.sortedNames = ["Dog", "Pet"] :=
    List.mergeSort_of_pairwise (by decide)
  rw [cycle?, hsorted]
  rfl

/-- Two stretches of the chain enter the description of pets, and neither does so
twice. -/
theorem chain_bounded_petLinks :
    petComponents.cycle? = none ∧
      petComponents.Chain dogValue petReference petLinks petSchema ["Dog"] ∧
        (petLinks.filterMap Link.dispatched?).Nodup ∧
          (∀ stretch, stretch <:+: petLinks → Link.IsStretch stretch →
            (stretch.filterMap Link.entered?).Nodup) ∧
            petLinks.length ≤ petComponents.chainBound petReference :=
  ⟨cycle?_petComponents, chain_petLinks,
    chain_bounded cycle?_petComponents chain_petLinks⟩

end Components
end ApiContract
