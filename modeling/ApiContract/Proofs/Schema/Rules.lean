import ApiContract.Proofs.Schema.Resolution

/-!
# The rules of one schema

After its discriminator a schema decides about a value by one of its keywords, which
`Schema.keyword` picks.  The conditions of a type are split into those on the value
itself, `Schema.Conforms`, and the values inside it with the schemas for them,
`Schema.Inner`.  The theorems at the end say what one step of the rules decides, case by
case.
-/

namespace ApiContract

/-! ## Values inside values -/

/-- The items of a value where an array is expected.  A string stands for the array that
it writes, or else for the array of itself. -/
inductive Json.HasItems : Json → List Json → Prop where
  | array (items : List Json) : HasItems (.array items) items
  | decoded {text : String} {items : List Json} :
      Json.parse? text.toList = some (.array items) →
      HasItems (.string text) items
  | wrapped {text : String} :
      (∀ items, Json.parse? text.toList ≠ some (.array items)) →
      HasItems (.string text) [.string text]

/-- The members of a value where an object is expected.  A string stands for the object
that it writes, or else for the object with itself as `value`. -/
inductive Json.HasMembers : Json → List (String × Json) → Prop where
  | object (members : List (String × Json)) : HasMembers (.object members) members
  | decoded {text : String} {members : List (String × Json)} :
      Json.parse? text.toList = some (.object members) →
      HasMembers (.string text) members
  | wrapped {text : String} :
      (∀ members, Json.parse? text.toList ≠ some (.object members)) →
      HasMembers (.string text) [("value", .string text)]

namespace Schema

theorem itemsOf?_eq_some_iff {value : Json} {items : List Json} :
    itemsOf? value = some items ↔ value.HasItems items := by
  constructor
  · intro h
    cases value with
    | array found =>
        obtain rfl : found = items := by simpa [itemsOf?] using h
        exact .array found
    | string text =>
        simp only [itemsOf?] at h
        split at h
        · rename_i hparse
          cases h
          exact .decoded hparse
        · rename_i hparse
          cases h
          exact .wrapped hparse
    | null => simp [itemsOf?] at h
    | bool => simp [itemsOf?] at h
    | number => simp [itemsOf?] at h
    | object => simp [itemsOf?] at h
  · rintro (_ | hparse | hparse)
    · rfl
    · simp [itemsOf?, hparse]
    · simp [itemsOf?]

theorem membersOf?_eq_some_iff {value : Json} {members : List (String × Json)} :
    membersOf? value = some members ↔ value.HasMembers members := by
  constructor
  · intro h
    cases value with
    | object found =>
        obtain rfl : found = members := by simpa [membersOf?] using h
        exact .object found
    | string text =>
        simp only [membersOf?] at h
        split at h
        · rename_i hparse
          cases h
          exact .decoded hparse
        · rename_i hparse
          cases h
          exact .wrapped hparse
    | null => simp [membersOf?] at h
    | bool => simp [membersOf?] at h
    | number => simp [membersOf?] at h
    | array => simp [membersOf?] at h
  · rintro (_ | hparse | hparse)
    · rfl
    · simp [membersOf?, hparse]
    · simp [membersOf?]

theorem hasItems_unique {value : Json} {items others : List Json}
    (hitems : value.HasItems items) (hothers : value.HasItems others) : items = others :=
  Option.some.inj
    ((itemsOf?_eq_some_iff.mpr hitems).symm.trans (itemsOf?_eq_some_iff.mpr hothers))

theorem hasMembers_unique {value : Json} {members others : List (String × Json)}
    (hmembers : value.HasMembers members) (hothers : value.HasMembers others) :
    members = others :=
  Option.some.inj
    ((membersOf?_eq_some_iff.mpr hmembers).symm.trans (membersOf?_eq_some_iff.mpr hothers))

/-! ## Types -/

theorem isBetween_eq_true_iff {least most : Option Nat} {n : Nat} :
    isBetween least most n = true ↔
      (∀ bound, least = some bound → bound ≤ n) ∧
        ∀ bound, most = some bound → n ≤ bound := by
  cases least <;> cases most <;> simp [isBetween]

theorem hasRepeatedText_eq_false_iff {texts : List String} :
    hasRepeatedText texts = false ↔ texts.Nodup := by
  induction texts with
  | nil => simp [hasRepeatedText]
  | cons text rest ih => simp [hasRepeatedText, ih]

theorem hasRepeat_eq_false_iff {items : List Json} :
    hasRepeat items = false ↔ (items.map Json.render).Nodup :=
  hasRepeatedText_eq_false_iff

/-- The conditions that the type of a schema puts on a value itself.  A schema without
type is one of objects. -/
def Conforms (schema : Schema) (value : Json) : Prop :=
  match schema.type with
  | some .string => schema.acceptsString value = true
  | some .integer | some .number => schema.acceptsNumber value = true
  | some .boolean => acceptsBoolean value = true
  | some .null => value = .null
  | some .unknown => False
  | some .array =>
      ∃ items, value.HasItems items ∧
        (∀ least, schema.minItems = some least → least ≤ items.length) ∧
        (∀ most, schema.maxItems = some most → items.length ≤ most) ∧
        (schema.uniqueItems = true → (items.map Json.render).Nodup)
  | some .object | none =>
      ∃ members, value.HasMembers members ∧
        ∀ name ∈ schema.required, ∃ member, members.lookup name = some member

/-- The values inside a value that a schema of arrays or objects judges, each with the
schema for it: items, declared members, and undeclared members where there is a schema
for them. -/
inductive Inner (schema : Schema) (value : Json) : Json → Schema → Prop where
  | item {items : List Json} {item : Json} {itemSchema : Schema} :
      schema.type = some .array → value.HasItems items →
      item ∈ items → schema.items = some itemSchema →
      Inner schema value item itemSchema
  | declared {members : List (String × Json)} {name : String} {member : Json}
      {property : Schema} :
      schema.type = some .object ∨ schema.type = none → value.HasMembers members →
      (name, property) ∈ schema.properties → members.lookup name = some member →
      Inner schema value member property
  | undeclared {members : List (String × Json)} {name : String} {member : Json}
      {extra : Schema} :
      schema.type = some .object ∨ schema.type = none → value.HasMembers members →
      (name, member) ∈ members → (∀ property, (name, property) ∉ schema.properties) →
      schema.additionalProperties = some (.matching extra) →
      Inner schema value member extra

section Array

variable {schema : Schema} {value : Json} {items : List Json}

theorem conforms_array_iff (htype : schema.type = some .array) (hitems : value.HasItems items) :
    schema.Conforms value ↔
      isBetween schema.minItems schema.maxItems items.length = true ∧
        (schema.uniqueItems = true → hasRepeat items = false) := by
  rw [isBetween_eq_true_iff, hasRepeat_eq_false_iff, and_assoc]
  simp only [Conforms, htype]
  constructor
  · rintro ⟨found, hfound, hconditions⟩
    obtain rfl := hasItems_unique hfound hitems
    exact hconditions
  · intro hconditions
    exact ⟨items, hitems, hconditions⟩

theorem inner_array_iff (htype : schema.type = some .array) (hitems : value.HasItems items)
    {inner : Json} {innerSchema : Schema} :
    schema.Inner value inner innerSchema ↔
      inner ∈ items ∧ schema.items = some innerSchema := by
  constructor
  · intro h
    cases h with
    | item _ hfound hmem hschema =>
        obtain rfl := hasItems_unique hfound hitems
        exact ⟨hmem, hschema⟩
    | declared hobject => simp [htype] at hobject
    | undeclared hobject => simp [htype] at hobject
  · rintro ⟨hmem, hschema⟩
    exact .item htype hitems hmem hschema

theorem acceptsArray_iff {judge : Judge} (htype : schema.type = some .array) :
    schema.acceptsArray judge value = true ↔
      schema.Conforms value ∧
        ∀ inner innerSchema, schema.Inner value inner innerSchema →
          judge inner innerSchema [] = true := by
  cases hfound : itemsOf? value with
  | none =>
      have hno : ¬schema.Conforms value := by
        simp only [Conforms, htype]
        rintro ⟨items, hitems, -⟩
        simp [itemsOf?_eq_some_iff.mpr hitems] at hfound
      simp [acceptsArray, hfound, hno]
  | some items =>
      have hitems := itemsOf?_eq_some_iff.mp hfound
      have hunique : (!(schema.uniqueItems && hasRepeat items)) = true ↔
          (schema.uniqueItems = true → hasRepeat items = false) := by
        cases schema.uniqueItems <;> simp
      simp only [conforms_array_iff htype hitems, inner_array_iff htype hitems, ← hunique]
      cases hschema : schema.items with
      | none => simp [acceptsArray, hfound, hschema]
      | some itemSchema => simp [acceptsArray, hfound, hschema]

end Array

section Object

variable {schema : Schema} {value : Json} {members : List (String × Json)}

theorem lookup_isSome_iff {α : Type} {entries : List (String × α)} {key : String} :
    (entries.lookup key).isSome = true ↔ ∃ entry, (key, entry) ∈ entries := by
  rw [List.lookup_isSome_iff]
  constructor
  · rintro ⟨⟨found, entry⟩, hmem, hkey⟩
    obtain rfl : key = found := by simpa using hkey
    exact ⟨entry, hmem⟩
  · rintro ⟨entry, hmem⟩
    exact ⟨(key, entry), hmem, by simp⟩

theorem conforms_object (htype : schema.type = some .object ∨ schema.type = none) :
    schema.Conforms value ↔
      ∃ members, value.HasMembers members ∧
        ∀ name ∈ schema.required, ∃ member, members.lookup name = some member := by
  rcases htype with htype | htype <;> simp only [Conforms, htype]

theorem conforms_object_iff (htype : schema.type = some .object ∨ schema.type = none)
    (hmembers : value.HasMembers members) :
    schema.Conforms value ↔
      schema.required.all (fun name => (members.lookup name).isSome) = true := by
  rw [conforms_object htype, List.all_eq_true]
  simp only [Option.isSome_iff_exists]
  constructor
  · rintro ⟨found, hfound, hrequired⟩
    obtain rfl := hasMembers_unique hfound hmembers
    exact hrequired
  · intro hrequired
    exact ⟨members, hmembers, hrequired⟩

/-- The declared members are accepted if each of them is. -/
theorem acceptsDeclared_iff {judge : Judge} {properties : List (String × Schema)} :
    acceptsDeclared judge properties members = true ↔
      ∀ name property member, (name, property) ∈ properties →
        members.lookup name = some member → judge member property [] = true := by
  simp only [acceptsDeclared, List.all_eq_true]
  constructor
  · intro h name property member hmem hlookup
    simpa [hlookup] using h (name, property) hmem
  · rintro h ⟨name, property⟩ hmem
    cases hlookup : members.lookup name with
    | none => simp
    | some member => simpa [hlookup] using h name property member hmem hlookup

/-- The undeclared members are accepted if each of them satisfies the schema for them. -/
theorem acceptsUndeclared_iff {judge : Judge} :
    schema.acceptsUndeclared judge members = true ↔
      ∀ name member extra, (name, member) ∈ members →
        (∀ property, (name, property) ∉ schema.properties) →
        schema.additionalProperties = some (.matching extra) →
        judge member extra [] = true := by
  have hundeclared (name : String) :
      (schema.properties.lookup name).isSome = false ↔
        ∀ property, (name, property) ∉ schema.properties := by
    rw [← Bool.not_eq_true, lookup_isSome_iff, not_exists]
  cases hextra : schema.additionalProperties with
  | none => simp [acceptsUndeclared, hextra]
  | some additional =>
      cases additional with
      | allowed flag => simp [acceptsUndeclared, hextra]
      | matching extra =>
          simp only [acceptsUndeclared, hextra, List.all_eq_true]
          constructor
          · rintro h name member _ hmem hfree ⟨⟩
            have haccepted := h (name, member) hmem
            rwa [(hundeclared name).mpr hfree, Bool.false_or] at haccepted
          · rintro h ⟨name, member⟩ hmem
            cases hlookup : (schema.properties.lookup name).isSome with
            | true => rfl
            | false => exact h name member extra hmem ((hundeclared name).mp hlookup) rfl

theorem inner_object_iff (htype : schema.type = some .object ∨ schema.type = none)
    (hmembers : value.HasMembers members) {inner : Json} {innerSchema : Schema} :
    schema.Inner value inner innerSchema ↔
      (∃ name, (name, innerSchema) ∈ schema.properties ∧
        members.lookup name = some inner) ∨
      ∃ name, (name, inner) ∈ members ∧
        (∀ property, (name, property) ∉ schema.properties) ∧
        schema.additionalProperties = some (.matching innerSchema) := by
  constructor
  · intro h
    cases h with
    | item harray => simp [harray] at htype
    | declared _ hfound hmem hlookup =>
        obtain rfl := hasMembers_unique hfound hmembers
        exact Or.inl ⟨_, hmem, hlookup⟩
    | undeclared _ hfound hmem hfree hextra =>
        obtain rfl := hasMembers_unique hfound hmembers
        exact Or.inr ⟨_, hmem, hfree, hextra⟩
  · rintro (⟨name, hmem, hlookup⟩ | ⟨name, hmem, hfree, hextra⟩)
    · exact .declared htype hmembers hmem hlookup
    · exact .undeclared htype hmembers hmem hfree hextra

theorem acceptsObject_iff {judge : Judge}
    (htype : schema.type = some .object ∨ schema.type = none) :
    schema.acceptsObject judge value = true ↔
      schema.Conforms value ∧
        ∀ inner innerSchema, schema.Inner value inner innerSchema →
          judge inner innerSchema [] = true := by
  cases hfound : membersOf? value with
  | none =>
      have hno : ¬schema.Conforms value := by
        rw [conforms_object htype]
        rintro ⟨members, hmembers, -⟩
        simp [membersOf?_eq_some_iff.mpr hmembers] at hfound
      simp [acceptsObject, hfound, hno]
  | some members =>
      have hmembers := membersOf?_eq_some_iff.mp hfound
      simp only [acceptsObject, hfound, Bool.and_eq_true, and_assoc,
        conforms_object_iff htype hmembers, inner_object_iff htype hmembers,
        acceptsDeclared_iff, acceptsUndeclared_iff]
      refine and_congr_right fun _ => ?_
      constructor
      · rintro ⟨hdeclared, hundeclared⟩ inner innerSchema
          (⟨name, hmem, hlookup⟩ | ⟨name, hmem, hfree, hextra⟩)
        · exact hdeclared name innerSchema inner hmem hlookup
        · exact hundeclared name inner innerSchema hmem hfree hextra
      · intro h
        constructor
        · intro name property member hmem hlookup
          exact h member property (Or.inl ⟨name, hmem, hlookup⟩)
        · intro name member extra hmem hfree hextra
          exact h member extra (Or.inr ⟨name, hmem, hfree, hextra⟩)

end Object

/-- A type accepts a value if its own conditions hold and every value inside it that it
judges is accepted. -/
theorem acceptsType_iff {judge : Judge} {schema : Schema} {value : Json} :
    schema.acceptsType judge value = true ↔
      schema.Conforms value ∧
        ∀ inner innerSchema, schema.Inner value inner innerSchema →
          judge inner innerSchema [] = true := by
  have hleaf (harray : schema.type ≠ some .array) (hobject : schema.type ≠ some .object)
      (hnone : schema.type ≠ none) (inner : Json) (innerSchema : Schema) :
      ¬schema.Inner value inner innerSchema := by
    intro h
    cases h with
    | item htype => exact harray htype
    | declared htype => exact htype.elim hobject hnone
    | undeclared htype => exact htype.elim hobject hnone
  cases htype : schema.type with
  | none => simpa [acceptsType, htype] using acceptsObject_iff (Or.inr htype)
  | some type =>
      cases type with
      | array => simpa [acceptsType, htype] using acceptsArray_iff htype
      | object => simpa [acceptsType, htype] using acceptsObject_iff (Or.inl htype)
      | string => simp [acceptsType, Conforms, htype, hleaf]
      | integer => simp [acceptsType, Conforms, htype, hleaf]
      | number => simp [acceptsType, Conforms, htype, hleaf]
      | boolean => simp [acceptsType, Conforms, htype, hleaf]
      | null =>
          have hnull : value.isNull = true ↔ value = .null := by
            cases value <;> simp [Json.isNull]
          simp [acceptsType, Conforms, htype, hleaf, hnull]
      | unknown => simp [acceptsType, Conforms, htype]

/-! ## Keywords -/

end Schema

/-- The keyword by which a schema decides about a value. -/
inductive Keyword where
  | reference (target : String)
  | allOf (members : List Schema)
  | oneOf (members : List Schema)
  | anyOf (members : List Schema)
  | type

/-- The keyword that decides, after the discriminator.  A reference comes before the
compositions and those before the type; in a re-entry the alternatives are skipped. -/
def Schema.keyword (schema : Schema) (isReentry : Bool) : Keyword :=
  match schema.ref, schema.allOf with
  | some reference, _ => .reference reference
  | none, some members => .allOf members
  | none, none =>
      if isReentry then .type
      else
        match schema.oneOf, schema.anyOf with
        | some members, _ => .oneOf members
        | none, some members => .anyOf members
        | none, none => .type

/-- References and compositions end at the schema: it has neither. -/
structure Schema.IsEnd (schema : Schema) : Prop where
  ref_eq : schema.ref = none
  allOf_eq : schema.allOf = none
  oneOf_eq : schema.oneOf = none
  anyOf_eq : schema.anyOf = none

theorem Schema.isEnd_of_keyword {schema : Schema} (h : schema.keyword false = .type) :
    schema.IsEnd := by
  cases href : schema.ref <;> cases hall : schema.allOf <;> cases hone : schema.oneOf <;>
    cases hany : schema.anyOf <;> simp_all [keyword]
  exact ⟨href, hall, hone, hany⟩

namespace Components

variable {components : Components} {judge : Judge} {value : Json} {schema : Schema}
  {dispatched : List String}

/-- What a judge makes of the keyword of a schema. -/
def decideBy (components : Components) (judge : Judge) (value : Json) (schema : Schema)
    (dispatched : List String) : Keyword → Bool
  | .reference reference =>
      (components.schema? reference).any fun target => judge value target dispatched
  | .allOf members => members.all fun member => judge value member dispatched
  | .oneOf members => members.countP (fun member => judge value member dispatched) == 1
  | .anyOf members => members.any fun member => judge value member dispatched
  | .type => schema.acceptsType judge value

theorem applyRules_eq (isReentry : Bool) :
    components.applyRules judge value schema dispatched isReentry =
      components.decideBy judge value schema dispatched (schema.keyword isReentry) := by
  cases href : schema.ref with
  | some reference =>
      cases htarget : components.schema? reference <;>
        simp [applyRules, Schema.keyword, decideBy, href, htarget]
  | none =>
      cases hall : schema.allOf with
      | some members => simp [applyRules, Schema.keyword, decideBy, href, hall]
      | none =>
          cases isReentry with
          | true => simp [applyRules, Schema.keyword, decideBy, href, hall]
          | false =>
              cases hone : schema.oneOf <;> cases hany : schema.anyOf <;>
                simp [applyRules, Schema.keyword, decideBy, href, hall, hone, hany]

/-! ## One step -/

/-- A null value of a nullable schema, which is accepted without further rules. -/
def IsExempt (value : Json) (schema : Schema) : Prop :=
  value = .null ∧ schema.nullable = true

/-- The outcomes of a discriminator after which the keywords of its schema apply. -/
def goesOn (isReentry : Bool) : Dispatch :=
  if isReentry then .reentered else .absent

theorem isNull_and_nullable_iff :
    (value.isNull && schema.nullable) = true ↔ IsExempt value schema := by
  cases value <;> simp [Json.isNull, IsExempt]

theorem step_of_exempt (h : IsExempt value schema) :
    components.step judge value schema dispatched = true := by
  simp [step, isNull_and_nullable_iff.mpr h]

theorem step_of_selected {name : String} {target : Schema} (hlive : ¬IsExempt value schema)
    (h : components.dispatch schema value dispatched = .selected name target) :
    components.step judge value schema dispatched =
      judge value target (name :: dispatched) := by
  rw [step, if_neg (mt isNull_and_nullable_iff.mp hlive), h]

theorem step_of_refused (hlive : ¬IsExempt value schema)
    (h : components.dispatch schema value dispatched = .refused) :
    components.step judge value schema dispatched = false := by
  rw [step, if_neg (mt isNull_and_nullable_iff.mp hlive), h]

/-- Where no component is selected, the keyword of the schema decides. -/
theorem step_of_goesOn {isReentry : Bool} (hlive : ¬IsExempt value schema)
    (h : components.dispatch schema value dispatched = goesOn isReentry) :
    components.step judge value schema dispatched =
      components.decideBy judge value schema dispatched (schema.keyword isReentry) := by
  rw [step, if_neg (mt isNull_and_nullable_iff.mp hlive), h, ← applyRules_eq]
  cases isReentry <;> rfl

/-- Where references and compositions end, the type decides. -/
theorem accepts_of_isEnd (hend : schema.IsEnd) (hdiscriminator : schema.discriminator = none)
    (hlive : ¬IsExempt value schema) :
    components.accepts value schema =
      schema.acceptsType (components.acceptsWithin maxDepth) value := by
  have hgoesOn : components.dispatch schema value [] = goesOn false := by
    simp [dispatch, hdiscriminator, goesOn]
  have hkeyword : schema.keyword false = .type := by
    simp [Schema.keyword, hend.ref_eq, hend.allOf_eq, hend.oneOf_eq, hend.anyOf_eq]
  rw [accepts, acceptsWithin, step_of_goesOn hlive hgoesOn, hkeyword, decideBy]

end Components
end ApiContract
