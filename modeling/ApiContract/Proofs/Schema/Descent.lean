import ApiContract.Proofs.Json.Size
import ApiContract.Proofs.Schema.Chains
import ApiContract.Proofs.Schema.DepthBound
import ApiContract.Proofs.Schema.Verdicts
import ApiContract.Proofs.Text.Lookup

/-!
# Nested judgements of all values

A nested judgement stays with its value, or goes to a smaller one, with one exception: a
string that does not write the array or object that a schema expects is wrapped, and what
is judged inside is the string once more.  So the number of judgements below one another
is bounded by the schemas, by the value, and by how often strings are wrapped on the way.
Without a limit on the depth the recursion ends if that happens finitely often; a schema
of arrays of itself wraps a string without end.

The judgements below one another are all those that a step may ask for.  A step asks for
fewer where an alternative is accepted or a condition fails before it comes to the others,
so a judgement may end although judgements that it may ask for do not.
-/

namespace ApiContract

/-! ## Heights of schemas -/

mutual
/-- How deep schemas are nested in a schema, by whichever keyword. -/
def Schema.height : Schema → ℕ
  | ⟨_, properties, items, allOf, oneOf, anyOf, additional⟩ =>
      max (max (heightOfProperties properties) (heightOfItems items))
        (max (heightOfAdditional additional)
          (max (heightOfMembers allOf) (max (heightOfMembers oneOf) (heightOfMembers anyOf))))

/-- One more than the height of the highest property. -/
def heightOfProperties : List (String × Schema) → ℕ
  | [] => 0
  | (_, schema) :: rest => max (schema.height + 1) (heightOfProperties rest)

/-- One more than the height of the schema for items. -/
def heightOfItems : Option Schema → ℕ
  | none => 0
  | some schema => schema.height + 1

/-- One more than the height of the schema for other members. -/
def heightOfAdditional : Option (AdditionalProperties Schema) → ℕ
  | some (.matching schema) => schema.height + 1
  | some (.allowed _) | none => 0

/-- How high a composition is, which counts itself. -/
def heightOfMembers : Option (List Schema) → ℕ
  | none => 0
  | some schemas => heightOfSchemas schemas

/-- One more than the height of the highest schema. -/
def heightOfSchemas : List Schema → ℕ
  | [] => 0
  | schema :: rest => max (schema.height + 1) (heightOfSchemas rest)
end

mutual
theorem Schema.compositionDepth_le_height : (schema : Schema) →
    schema.compositionDepth ≤ schema.height
  | ⟨_, properties, items, allOf, oneOf, anyOf, additional⟩ => by
      have hall := depthOfMembers_le_heightOfMembers allOf
      have hone := depthOfMembers_le_heightOfMembers oneOf
      have hany := depthOfMembers_le_heightOfMembers anyOf
      rw [Schema.compositionDepth, Schema.height]
      omega

theorem depthOfMembers_le_heightOfMembers : (members : Option (List Schema)) →
    depthOfMembers members ≤ heightOfMembers members
  | none => Nat.le_refl _
  | some schemas => depthOfSchemas_le_heightOfSchemas schemas

theorem depthOfSchemas_le_heightOfSchemas : (schemas : List Schema) →
    depthOfSchemas schemas ≤ heightOfSchemas schemas
  | [] => Nat.le_refl _
  | schema :: rest => by
      have hfirst := schema.compositionDepth_le_height
      have hrest := depthOfSchemas_le_heightOfSchemas rest
      rw [depthOfSchemas, heightOfSchemas]
      omega
end

theorem height_lt_heightOfSchemas {member : Schema} {schemas : List Schema}
    (h : member ∈ schemas) : member.height < heightOfSchemas schemas := by
  induction schemas with
  | nil => cases h
  | cons schema rest ih =>
      rw [heightOfSchemas]
      rcases List.mem_cons.mp h with rfl | h
      · exact lt_max_of_lt_left (Nat.lt_succ_self _)
      · exact lt_max_of_lt_right (ih h)

theorem height_lt_heightOfProperties {name : String} {property : Schema}
    {properties : List (String × Schema)} (h : (name, property) ∈ properties) :
    property.height < heightOfProperties properties := by
  induction properties with
  | nil => cases h
  | cons first rest ih =>
      obtain ⟨_, _⟩ := first
      rw [heightOfProperties]
      rcases List.mem_cons.mp h with heq | h
      · cases heq
        exact lt_max_of_lt_left (Nat.lt_succ_self _)
      · exact lt_max_of_lt_right (ih h)

theorem Schema.height_lt_of_mem {schema member : Schema} {isReentry : Bool}
    (hmem : member ∈ (schema.keyword isReentry).members) : member.height < schema.height := by
  have hcases := mem_members_cases hmem
  obtain ⟨keywords, properties, items, allOf, oneOf, anyOf, additional⟩ := schema
  rw [height]
  rcases hcases with ⟨members, rfl, hmember⟩ | ⟨-, members, rfl | rfl, hmember⟩
  all_goals
    have hless := height_lt_heightOfSchemas hmember
    simp only [heightOfMembers]
    omega

namespace Schema

variable {schema innerSchema : Schema} {value inner : Json}

theorem Inner.height_lt (h : schema.Inner value inner innerSchema) :
    innerSchema.height < schema.height := by
  obtain ⟨keywords, properties, items, allOf, oneOf, anyOf, additional⟩ := schema
  rw [height]
  cases h with
  | item _ _ _ hitems =>
      obtain rfl : items = some innerSchema := hitems
      simp only [heightOfItems]
      omega
  | declared _ _ hmem =>
      have hless := height_lt_heightOfProperties (show (_, innerSchema) ∈ properties from hmem)
      omega
  | undeclared _ _ _ _ hextra =>
      obtain rfl : additional = some (.matching innerSchema) := hextra
      simp only [heightOfAdditional]
      omega

/-! ## Sizes of inner values -/

/-- A string that stands for an array or object of itself, since it does not write the
one that the schema expects. -/
inductive Wraps (schema : Schema) : Json → Prop where
  | array {text : String} :
      schema.type = some .array → (∀ items, Json.parse? text.toList ≠ some (.array items)) →
      Wraps schema (.string text)
  | object {text : String} :
      schema.type = some .object ∨ schema.type = none →
      (∀ members, Json.parse? text.toList ≠ some (.object members)) →
      Wraps schema (.string text)

theorem Inner.size_lt_or_eq (h : schema.Inner value inner innerSchema) :
    inner.size < value.size ∨ inner = value ∧ schema.Wraps value := by
  have hmember {name : String} {members : List (String × Json)}
      (htype : schema.type = some .object ∨ schema.type = none)
      (hmembers : value.HasMembers members) (hmem : (name, inner) ∈ members) :
      inner.size < value.size ∨ inner = value ∧ schema.Wraps value := by
    have hsize := Json.size_le_sizeOfMembers hmem
    cases hmembers with
    | object => exact Or.inl (Nat.lt_succ_of_le hsize)
    | decoded hparse =>
        have htext := Json.size_le_of_parse? hparse
        rw [String.length_toList, Json.size] at htext
        exact Or.inl (Nat.lt_succ_of_lt (by omega))
    | wrapped hnone =>
        cases List.mem_singleton.mp hmem
        exact Or.inr ⟨rfl, .object htype hnone⟩
  cases h with
  | item htype hitems hmem _ =>
      have hsize := Json.size_le_sizeOfItems hmem
      cases hitems with
      | array => exact Or.inl (Nat.lt_succ_of_le hsize)
      | decoded hparse =>
          have htext := Json.size_le_of_parse? hparse
          rw [String.length_toList, Json.size] at htext
          exact Or.inl (Nat.lt_succ_of_lt (by omega))
      | wrapped hnone =>
          cases List.mem_singleton.mp hmem
          exact Or.inr ⟨rfl, .array htype hnone⟩
  | declared htype hmembers _ hlookup => exact hmember htype hmembers (mem_of_lookup hlookup)
  | undeclared htype hmembers hmem _ _ => exact hmember htype hmembers hmem

/-- What is inside a value without strings is without strings. -/
theorem Inner.hasString_eq_false (h : schema.Inner value inner innerSchema)
    (hvalue : value.hasString = false) : inner.hasString = false := by
  have hmember {name : String} {members : List (String × Json)}
      (hmembers : value.HasMembers members) (hmem : (name, inner) ∈ members) :
      inner.hasString = false := by
    cases hmembers with
    | object => exact Json.hasString_of_mem_members hmem hvalue
    | decoded _ => cases hvalue
    | wrapped _ => cases hvalue
  cases h with
  | item _ hitems hmem _ =>
      cases hitems with
      | array => exact Json.hasString_of_mem_items hmem hvalue
      | decoded _ => cases hvalue
      | wrapped _ => cases hvalue
  | declared _ hmembers _ hlookup => exact hmember hmembers (mem_of_lookup hlookup)
  | undeclared _ hmembers hmem _ _ => exact hmember hmembers hmem

end Schema

/-! ## Judgements below one another -/

namespace Components

/-- The height of `root` and of all components. -/
def height (components : Components) (root : Schema) : ℕ :=
  (components.schemas.map (·.2.height)).foldr max root.height

/-- How many judgements of one value follow one another at most, below any schema that is
nested in the components or the root. -/
def stayBound (components : Components) (root : Schema) : ℕ :=
  ((components.schemas.length + 1) * components.schemas.length + 1) *
    (components.height root + 1)

/-- Judgements that may be asked for below that of a value by `root`: how many they are, and
how many of them go inside a value and find the same value again. -/
inductive Descends (components : Components) (value : Json) (root : Schema) :
    (length wraps : ℕ) → Json → Schema → List String → Prop where
  | root : Descends components value root 0 0 value root []
  | stay {length wraps : ℕ} {link : Link} {value' value'' : Json} {schema schema' : Schema}
      {names names' : List String} :
      Descends components value root length wraps value' schema names →
      link ≠ .inner → components.Call value' schema names link value'' schema' names' →
      Descends components value root (length + 1) wraps value'' schema' names'
  | enter {length wraps : ℕ} {value' inner : Json} {schema innerSchema : Schema}
      {names names' : List String} :
      Descends components value root length wraps value' schema names →
      components.Call value' schema names .inner inner innerSchema names' →
      inner ≠ value' →
      Descends components value root (length + 1) wraps inner innerSchema names'
  | wrap {length wraps : ℕ} {value' : Json} {schema innerSchema : Schema}
      {names names' : List String} :
      Descends components value root length wraps value' schema names →
      components.Call value' schema names .inner value' innerSchema names' →
      Descends components value root (length + 1) (wraps + 1) value' innerSchema names'

/-- No more than `most` of the judgements below one another judge a wrapped string. -/
def WrapsAtMost (components : Components) (value : Json) (root : Schema) (most : ℕ) : Prop :=
  ∀ length wraps inner schema names,
    components.Descends value root length wraps inner schema names → wraps ≤ most

/-- Whatever judgements are asked for, the recursion without a limit on the depth comes to an
end.  That is more than that the judgement of the value does: it counts those judgements that
a step leaves out when its verdict is reached before. -/
def Terminates (components : Components) (value : Json) (root : Schema) : Prop :=
  ∃ levels, components.Within levels value root []

variable {components : Components} {value value' : Json} {root schema schema' : Schema}
  {names names' : List String} {link : Link} {length wraps : ℕ}

theorem foldr_max_le {heights : List ℕ} {start most : ℕ} (hstart : start ≤ most)
    (h : ∀ height ∈ heights, height ≤ most) : heights.foldr max start ≤ most := by
  induction heights with
  | nil => exact hstart
  | cons first rest ih =>
      obtain ⟨hfirst, hrest⟩ := List.forall_mem_cons.mp h
      exact max_le hfirst (ih hrest)

theorem height_root_le (components : Components) (root : Schema) :
    root.height ≤ components.height root := by
  rw [height]
  induction components.schemas with
  | nil => simp
  | cons _ _ ih => exact le_max_of_le_right ih

theorem height_le_of_mem {name : String} {target : Schema}
    (h : (name, target) ∈ components.schemas) : target.height ≤ components.height root :=
  List.le_max_of_le' _ (List.mem_map.mpr ⟨(name, target), h, rfl⟩) (Nat.le_refl _)

/-- The height of the whole bounds the length of chains from every schema inside. -/
theorem chainBound_le (h : schema.height ≤ components.height root) :
    components.chainBound schema ≤ components.stayBound root := by
  apply Nat.mul_le_mul_left
  apply Nat.add_le_add_right
  apply foldr_max_le (Nat.le_trans schema.compositionDepth_le_height h)
  intro depth hdepth
  obtain ⟨⟨name, target⟩, hmem, rfl⟩ := List.mem_map.mp hdepth
  exact Nat.le_trans target.compositionDepth_le_height (height_le_of_mem hmem)

/-- What a judgement leads to is no higher than the whole. -/
theorem Call.height_le (h : components.Call value schema names link value' schema' names')
    (hschema : schema.height ≤ components.height root) :
    schema'.height ≤ components.height root := by
  cases h with
  | dispatch _ hdispatch =>
      exact height_le_of_mem (mem_of_lookup (lookup_and_not_mem_of_selected hdispatch).1)
  | reference _ _ _ hresolves => exact height_le_of_mem (mem_of_lookup hresolves.declared)
  | member _ _ hmem =>
      exact Nat.le_of_lt (Nat.lt_of_lt_of_le (Schema.height_lt_of_mem hmem) hschema)
  | inner _ _ _ hinner => exact Nat.le_of_lt (Nat.lt_of_lt_of_le hinner.height_lt hschema)

/-- A judgement stays with its value, goes to a smaller one, or wraps a string. -/
theorem Call.value_cases (h : components.Call value schema names link value' schema' names') :
    link ≠ .inner ∧ value' = value ∨
      link = .inner ∧ names' = [] ∧
        (value'.size < value.size ∨ value' = value ∧ schema.Wraps value) := by
  cases h with
  | dispatch => exact Or.inl ⟨by simp, rfl⟩
  | reference => exact Or.inl ⟨by simp, rfl⟩
  | member => exact Or.inl ⟨by simp, rfl⟩
  | inner _ _ _ hinner => exact Or.inr ⟨rfl, rfl, hinner.size_lt_or_eq⟩

/-- Every call leads one judgement further down. -/
theorem Descends.call (h : components.Descends value root length wraps value' schema names)
    {value'' : Json} (hcall : components.Call value' schema names link value'' schema' names') :
    ∃ wraps', components.Descends value root (length + 1) wraps' value'' schema' names' := by
  by_cases hlink : link = .inner
  · subst hlink
    by_cases hsame : value'' = value'
    · subst hsame
      exact ⟨wraps + 1, h.wrap hcall⟩
    · exact ⟨wraps, h.enter hcall hsame⟩
  · exact ⟨wraps, h.stay hlink hcall⟩

theorem Descends.height_le
    (h : components.Descends value root length wraps value' schema names) :
    schema.height ≤ components.height root := by
  induction h with
  | root => exact height_root_le components root
  | stay _ _ hcall ih => exact hcall.height_le ih
  | enter _ hcall _ ih => exact hcall.height_le ih
  | wrap _ hcall ih => exact hcall.height_le ih

/-- Judgements below one another fall into chains of judgements of one value.  Each of
them but the first starts inside the value of the one before, so that it judges a smaller
value or a wrapped string. -/
theorem Descends.exists_chain (hacyclic : components.cycle? = none)
    (h : components.Descends value root length wraps value' schema names) :
    ∃ start links entered, components.Chain value' start links schema names ∧
      start.height ≤ components.height root ∧ entered + value'.size ≤ value.size + wraps ∧
      length ≤ entered * (components.stayBound root + 1) + links.length := by
  have hlinks {start : Schema} {links : List Link} {value' : Json} {schema : Schema}
      {names : List String} (hchain : components.Chain value' start links schema names)
      (hheight : start.height ≤ components.height root) :
      links.length ≤ components.stayBound root :=
    Nat.le_trans (hchain.length_le hacyclic) (chainBound_le hheight)
  induction h with
  | root => exact ⟨root, [], 0, .root, height_root_le components root, by simp, by simp⟩
  | stay hdescends hlink hcall ih =>
      obtain ⟨start, links, entered, hchain, hheight, hsize, hlength⟩ := ih
      obtain ⟨-, rfl⟩ | ⟨hinner, -⟩ := hcall.value_cases
      · refine ⟨start, links ++ [_], entered, .call hchain hlink hcall, hheight, hsize, ?_⟩
        rw [List.length_append, List.length_singleton]
        omega
      · exact absurd hinner hlink
  | enter hdescends hcall hne ih =>
      obtain ⟨start, links, entered, hchain, hheight, hsize, hlength⟩ := ih
      obtain ⟨hlink, -⟩ | ⟨-, rfl, hsmaller | ⟨hsame, -⟩⟩ := hcall.value_cases
      · exact absurd rfl hlink
      · have hbound := hlinks hchain hheight
        refine ⟨_, [], entered + 1, .root, hcall.height_le hdescends.height_le, by omega, ?_⟩
        rw [Nat.add_one_mul, List.length_nil]
        omega
      · exact absurd hsame hne
  | wrap hdescends hcall ih =>
      obtain ⟨start, links, entered, hchain, hheight, hsize, hlength⟩ := ih
      obtain ⟨hlink, -⟩ | ⟨-, rfl, -⟩ := hcall.value_cases
      · exact absurd rfl hlink
      · have hbound := hlinks hchain hheight
        refine ⟨_, [], entered + 1, .root, hcall.height_le hdescends.height_le, by omega, ?_⟩
        rw [Nat.add_one_mul, List.length_nil]
        omega

/-- How many judgements follow one another at most when `wraps` of them judge a wrapped
string. -/
def descentBound (components : Components) (value : Json) (root : Schema) (wraps : ℕ) : ℕ :=
  (value.size + wraps) * (components.stayBound root + 1)

theorem Descends.length_lt (hacyclic : components.cycle? = none)
    (h : components.Descends value root length wraps value' schema names) :
    length < components.descentBound value root wraps := by
  obtain ⟨start, links, entered, hchain, hheight, hsize, hlength⟩ := h.exists_chain hacyclic
  have hlinks := Nat.le_trans (hchain.length_le hacyclic) (chainBound_le hheight)
  have hpos := value'.one_le_size
  have hentered : (entered + 1) * (components.stayBound root + 1) ≤
      components.descentBound value root wraps :=
    Nat.mul_le_mul_right _ (by omega)
  rw [Nat.add_one_mul] at hentered
  omega

theorem Descends.wraps_le_length
    (h : components.Descends value root length wraps value' schema names) :
    wraps ≤ length := by
  induction h with
  | root => exact Nat.le_refl _
  | stay _ _ _ ih => exact Nat.le_succ_of_le ih
  | enter _ _ _ ih => exact Nat.le_succ_of_le ih
  | wrap _ _ ih => exact Nat.succ_le_succ ih

/-- Where no judgements follow one another beyond a length, every chain of them ends
within it. -/
theorem Descends.within {left : ℕ}
    (h : components.Descends value root length wraps value' schema names)
    (hlength : ∀ {below wraps' : ℕ} {inner : Json} {schema' : Schema} {names' : List String},
      components.Descends value root below wraps' inner schema' names' →
        below < length + left) :
    components.Within left value' schema names := by
  induction left generalizing length wraps value' schema names with
  | zero => exact absurd (hlength h) (Nat.lt_irrefl _)
  | succ left ih =>
      intro link inner schema' names' hcall
      obtain ⟨wraps', hnext⟩ := h.call hcall
      apply ih hnext
      intro below _ _ _ _ hdescends
      have hless := hlength hdescends
      omega

/-- Where every chain of judgements ends within some levels, so many are left to each. -/
theorem Descends.exists_within {levels : ℕ}
    (h : components.Descends value root length wraps value' schema names)
    (hwithin : components.Within levels value root []) :
    ∃ left, left + length = levels ∧ components.Within left value' schema names := by
  have hstep {length : ℕ} {value' inner : Json} {schema schema' : Schema}
      {names names' : List String} {link : Link}
      (ih : ∃ left, left + length = levels ∧ components.Within left value' schema names)
      (hcall : components.Call value' schema names link inner schema' names') :
      ∃ left, left + (length + 1) = levels ∧ components.Within left inner schema' names' := by
    obtain ⟨left, hleft, hbelow⟩ := ih
    cases left with
    | zero => exact hbelow.elim
    | succ left => exact ⟨left, by omega, hbelow link _ _ _ hcall⟩
  induction h with
  | root => exact ⟨levels, rfl, hwithin⟩
  | stay _ _ hcall ih => exact hstep ih hcall
  | enter _ hcall _ ih => exact hstep ih hcall
  | wrap _ hcall ih => exact hstep ih hcall

theorem WrapsAtMost.within {most : ℕ} (h : components.WrapsAtMost value root most)
    (hacyclic : components.cycle? = none) :
    components.Within (components.descentBound value root most) value root [] := by
  apply Descends.root.within
  intro length wraps inner schema names hdescends
  rw [Nat.zero_add]
  apply Nat.lt_of_lt_of_le (hdescends.length_lt hacyclic)
  exact Nat.mul_le_mul_right _ (Nat.add_le_add_left (h _ _ _ _ _ hdescends) value.size)

/-- A value without strings holds none that could be wrapped. -/
theorem wrapsAtMost_zero (hvalue : value.hasString = false) :
    components.WrapsAtMost value root 0 := by
  have hnone {length wraps : ℕ} {inner : Json} {schema : Schema} {names : List String}
      (h : components.Descends value root length wraps inner schema names) :
      wraps = 0 ∧ inner.hasString = false := by
    induction h with
    | root => exact ⟨rfl, hvalue⟩
    | stay _ hlink hcall ih =>
        obtain ⟨-, rfl⟩ | ⟨hinner, -⟩ := hcall.value_cases
        · exact ih
        · exact absurd hinner hlink
    | enter _ hcall _ ih =>
        cases hcall with
        | inner _ _ _ hinner => exact ⟨ih.1, hinner.hasString_eq_false ih.2⟩
    | wrap _ hcall ih =>
        obtain ⟨hlink, -⟩ | ⟨-, -, hsmaller | ⟨-, hwraps⟩⟩ := hcall.value_cases
        · exact absurd rfl hlink
        · exact absurd hsmaller (Nat.lt_irrefl _)
        · obtain ⟨-, hstring⟩ := ih
          cases hwraps <;> cases hstring
  intro length wraps inner schema names h
  exact Nat.le_of_eq (hnone h).1

/-! ## Strings as arrays of arrays -/

/-- The schema of arrays of arrays itself. -/
def arrayTreeItems : Schema where
  type := some .array
  items := some arrayTree

theorem resolves_arrayTreeItems :
    arrayTrees.Resolves "#/components/schemas/Tree" "Tree" arrayTreeItems :=
  ⟨by decide, Or.inl (by decide), by rfl⟩

variable {text : String}

theorem hasItems_string (hwrites : ∀ items, Json.parse? text.toList ≠ some (.array items)) :
    (Json.string text).HasItems [.string text] :=
  .wrapped hwrites

/-- The array that a string stands for consists of the string, so that a verdict on the
string rests on one that was reached before. -/
theorem not_evaluates_string (hwrites : ∀ items, Json.parse? text.toList ≠ some (.array items))
    (levels : ℕ) (verdict : Bool) :
    ¬arrayTrees.Evaluates levels (.string text) arrayTree {n | n ∈ []} verdict := by
  have hitems := hasItems_string hwrites
  have hgoverns {schema : Schema} (hnone : schema.discriminator = none) :
      arrayTrees.Governs (.string text) schema {n | n ∈ []} (schema.keyword false) :=
    .intro false (by simp [IsExempt]) (.absent hnone)
  have hinner : arrayTreeItems.Inner (.string text) (.string text) arrayTree :=
    .item rfl hitems (by simp) rfl
  have hconforms : arrayTreeItems.Conforms (.string text) := by
    refine ⟨_, hitems, ?_, ?_, ?_⟩ <;> simp [arrayTreeItems]
  -- Two levels at a time: the reference and the schema of arrays.
  induction levels using Nat.strong_induction_on generalizing verdict with
  | _ levels ih =>
      intro h
      obtain ⟨levels, rfl⟩ := h.exists_eq_succ
      obtain ⟨name, target, hresolves, htarget⟩ | ⟨-, hnone⟩ := h.restsOn (hgoverns rfl)
      · obtain rfl := hresolves.unique resolves_arrayTreeItems
        obtain ⟨levels, rfl⟩ := htarget.exists_eq_succ
        have hrests := htarget.restsOn (hgoverns rfl)
        cases verdict with
        | true =>
            have haccepted := hrests.2 _ _ hinner
            rw [← setOf_mem_nil] at haccepted
            exact ih levels (by omega) true haccepted
        | false =>
            rcases hrests with hfails | ⟨inner, innerSchema, hmem, hrefused⟩
            · exact hfails hconforms
            · obtain ⟨htext, hschema⟩ := (Schema.inner_array_iff rfl hitems).mp hmem
              obtain rfl := List.mem_singleton.mp htext
              obtain rfl : arrayTree = innerSchema := Option.some.inj hschema
              rw [← setOf_mem_nil] at hrefused
              exact ih levels (by omega) false hrefused
      · exact hnone _ _ resolves_arrayTreeItems

theorem not_within_string (hwrites : ∀ items, Json.parse? text.toList ≠ some (.array items))
    (levels : ℕ) : ¬arrayTrees.Within levels (.string text) arrayTree [] :=
  fun hwithin => not_evaluates_string hwrites levels _ hwithin.evaluates

/-- At every depth, what is left to judge is the string itself. -/
theorem acceptsWithin_arrayTree_string
    (hwrites : ∀ items, Json.parse? text.toList ≠ some (.array items))
    (depth : ℕ) : arrayTrees.acceptsWithin depth (.string text) arrayTree [] = false := by
  induction depth using Nat.twoStepInduction with
  | zero => rfl
  | one => rfl
  | more depth ih _ =>
      have hitems : Schema.itemsOf? (.string text) = some [.string text] :=
        Schema.itemsOf?_eq_some_iff.mpr (hasItems_string hwrites)
      have hstep : arrayTrees.acceptsWithin (depth + 2) (.string text) arrayTree [] =
          arrayTreeItems.acceptsArray (arrayTrees.acceptsWithin depth) (.string text) := by
        rfl
      rw [hstep, Schema.acceptsArray, hitems]
      simp [arrayTreeItems, ih]

theorem not_writes_x (items : List Json) : Json.parse? "x".toList ≠ some (.array items) := by
  have hnone : Json.parse? "x".toList = none := by decide
  rw [hnone]
  simp

/-- No reference leads in a circle, yet the recursion on a string does not end: only the
limit on the depth refuses it. -/
theorem not_terminates_x :
    arrayTrees.cycle? = none ∧ ¬arrayTrees.Terminates (.string "x") arrayTree ∧
      (∀ levels verdict, ¬arrayTrees.Evaluates levels (.string "x") arrayTree ∅ verdict) ∧
        arrayTrees.accepts (.string "x") arrayTree = false := by
  refine ⟨cycle?_arrayTrees, ?_, ?_, acceptsWithin_arrayTree_string not_writes_x _⟩
  · rintro ⟨levels, hwithin⟩
    exact not_within_string not_writes_x levels hwithin
  · intro levels verdict
    rw [← setOf_mem_nil]
    exact not_evaluates_string not_writes_x levels verdict

/-- Any string, or an array of arrays. -/
def stringOrTree : Schema where
  anyOf := some [{ type := some .string }, arrayTree]

/-- A string is accepted by the first alternative, although the judgements that may be asked
for at the second one have no end. -/
theorem acceptsWithin_arrayTree_stringOrTree
    (hwrites : ∀ items, Json.parse? text.toList ≠ some (.array items)) :
    ¬arrayTrees.Terminates (.string text) stringOrTree ∧
      ∀ depth, arrayTrees.acceptsWithin (depth + 2) (.string text) stringOrTree [] = true := by
  constructor
  · rintro ⟨levels, hwithin⟩
    cases levels with
    | zero => exact hwithin
    | succ levels =>
        have hdispatch : arrayTrees.dispatch stringOrTree (.string text) [] = goesOn false := rfl
        have hmember : arrayTree ∈ (stringOrTree.keyword false).members :=
          List.mem_cons_of_mem _ (List.mem_singleton_self _)
        exact not_within_string hwrites levels
          (hwithin _ _ _ _ (.member (by simp [IsExempt]) hdispatch hmember))
  · intro depth
    have hfirst : arrayTrees.acceptsWithin (depth + 1) (.string text) { type := some .string } [] =
        true := by
      rfl
    change [{ type := some .string }, arrayTree].any
      (fun member => arrayTrees.acceptsWithin (depth + 1) (.string text) member []) = true
    rw [List.any_cons, hfirst, Bool.true_or]

/-- In components without cycles, a nested judgement that a step may ask for stays with its
value, goes to a smaller one, or wraps a string.  How many of them follow one another is
bounded by the schemas, the value, and how often strings are wrapped.  So they come to an end
without a limit on the depth exactly where that happens a bounded number of times, as it does
below a value without strings; and then from some limit on none makes a difference.  Otherwise
there may be no verdict without a limit: every string that writes no array is judged without
end by a schema of arrays of itself, and refused by every limit. -/
theorem terminates_iff_wraps_bounded (hacyclic : components.cycle? = none) (value : Json)
    (root : Schema) :
    (∀ outer schema names link inner schema' names',
        components.Call outer schema names link inner schema' names' →
          link ≠ .inner ∧ inner = outer ∨
            link = .inner ∧ (inner.size < outer.size ∨ inner = outer ∧ schema.Wraps outer)) ∧
      (∀ length wraps inner schema names,
        components.Descends value root length wraps inner schema names →
          length < components.descentBound value root wraps) ∧
      (components.Terminates value root ↔ ∃ most, components.WrapsAtMost value root most) ∧
      (value.hasString = false → components.WrapsAtMost value root 0) ∧
      (∀ most, components.WrapsAtMost value root most →
        ∀ depth, components.descentBound value root most ≤ depth →
          components.acceptsWithin depth value root [] =
            components.acceptsWithin (components.descentBound value root most) value root
              []) ∧
      ∀ text : String, (∀ items, Json.parse? text.toList ≠ some (.array items)) →
        (∀ levels verdict,
          ¬arrayTrees.Evaluates levels (.string text) arrayTree ∅ verdict) ∧
          ∀ depth, arrayTrees.acceptsWithin depth (.string text) arrayTree [] = false := by
  refine ⟨?_, ?_, ⟨?_, ?_⟩, wrapsAtMost_zero, ?_, ?_⟩
  · intro outer schema names link inner schema' names' hcall
    obtain hstays | ⟨hinner, -, hvalue⟩ := hcall.value_cases
    · exact Or.inl hstays
    · exact Or.inr ⟨hinner, hvalue⟩
  · intro length wraps inner schema names hdescends
    exact hdescends.length_lt hacyclic
  · rintro ⟨levels, hwithin⟩
    refine ⟨levels, ?_⟩
    intro length wraps inner schema names hdescends
    obtain ⟨left, hleft, -⟩ := hdescends.exists_within hwithin
    have hwraps := hdescends.wraps_le_length
    omega
  · rintro ⟨most, hwraps⟩
    exact ⟨_, hwraps.within hacyclic⟩
  · intro most hwraps depth hdepth
    exact (hwraps.within hacyclic).evaluates.acceptsWithin_eq hdepth fun _ => Iff.rfl
  · intro text hwrites
    refine ⟨?_, acceptsWithin_arrayTree_string hwrites⟩
    intro levels verdict
    rw [← setOf_mem_nil]
    exact not_evaluates_string hwrites levels verdict

/-- The recursion on an array of arrays ends, and accepts it with every limit from 21
on.  The string "x" is refused with every limit. -/
theorem terminates_nestedArray :
    arrayTrees.cycle? = none ∧ arrayTrees.Terminates (nestedArray 2) arrayTree ∧
      (∀ depth, 21 ≤ depth →
        arrayTrees.acceptsWithin depth (nestedArray 2) arrayTree [] = true) ∧
      ∀ depth, arrayTrees.acceptsWithin depth (.string "x") arrayTree [] = false := by
  obtain ⟨-, -, hterminates, hstringless, hlimit, hstrings⟩ :=
    terminates_iff_wraps_bounded cycle?_arrayTrees (nestedArray 2) arrayTree
  have hwraps := hstringless (by rfl)
  have hbound : arrayTrees.descentBound (nestedArray 2) arrayTree 0 = 21 := by rfl
  refine ⟨cycle?_arrayTrees, hterminates.mpr ⟨0, hwraps⟩, ?_, (hstrings "x" not_writes_x).2⟩
  intro depth hdepth
  rw [hlimit 0 hwraps depth (hbound ▸ hdepth), hbound, acceptsWithin_nestedArray]
  rfl

end Components
end ApiContract
