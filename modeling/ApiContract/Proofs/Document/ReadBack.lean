import ApiContract.Document.Decode
import ApiContract.Proofs.Document.Proper
import ApiContract.Proofs.Node.ReadBack

/-!
# Documents that are read back

A proper document with finite bounds is read back from the JSON value that is written of
it.  Each kind of part is a record whose fields are read back one by one; for schemas the
proof follows their parts.
-/

namespace ApiContract

open Node (ReadsBack record?_ofObject option?_ofOption readsBack_list readsBack_map
  exists_lower_of_object)

/-! ## Names -/

theorem ValueType.ofNode?_name (t : ValueType) :
    ValueType.ofNode? (Node.ofJson (.string t.name)) = some t := by
  cases t <;> rfl

theorem Format.ofNode?_name (f : Format) :
    Format.ofNode? (Node.ofJson (.string f.name)) = some f := by
  cases f <;> rfl

theorem Location.ofNode?_name (l : Location) :
    Location.ofNode? (Node.ofJson (.string l.name)) = some l := by
  cases l <;> rfl

theorem SecurityKind.ofNode?_name (k : SecurityKind) :
    SecurityKind.ofNode? (Node.ofJson (.string k.name)) = some k := by
  cases k <;> rfl

/-! ## Schemas -/

theorem Discriminator.readsBack {d : Discriminator} (hkeys : (d.mapping.map (·.1)).Nodup) :
    ReadsBack Discriminator.ofNode? Discriminator.toJson d := by
  intro limit hdepth
  rw [Discriminator.toJson] at hdepth ⊢
  obtain ⟨limit, rfl, hparts⟩ := Node.exists_lower_of_object hdepth
  have hmapping : Node.map? textOf? limit (Node.ofJson (.ofMap .string d.mapping)) =
      some d.mapping :=
    readsBack_map hkeys (fun _ _ _ _ => rfl) limit (hparts _ (by simp))
  rw [Discriminator.ofNode?, record?_ofObject]
  case hnames => rfl
  case hkeys => decide
  simp [Node.Record.required?, Node.Record.defaulted?, hmapping]

namespace Schema

variable {limit : ℕ}

theorem option?_type (type : Option ValueType) :
    Node.option? ValueType.ofNode?
      (Node.ofJson (.ofOption (fun t => .string t.name) type)) = some type :=
  option?_ofOption fun t _ => ⟨by simp, t.ofNode?_name⟩

theorem option?_format (format : Option Format) :
    Node.option? Format.ofNode?
      (Node.ofJson (.ofOption (fun f => .string f.name) format)) = some format :=
  option?_ofOption fun f _ => ⟨by simp, f.ofNode?_name⟩

/-- The members of what is written of a schema. -/
def fields (k : Keywords) (properties items allOf oneOf anyOf additional : Json) :
    List (String × Json) :=
  [("$ref", .ofText? k.ref),
    ("type", .ofOption (fun t => .string t.name) k.type),
    ("format", .ofOption (fun f => .string f.name) k.format),
    ("title", .ofText? k.title),
    ("description", .ofText? k.description),
    ("properties", properties),
    ("items", items),
    ("required", .ofList .string k.required),
    ("enum", .ofOption .array k.enum),
    ("allOf", allOf),
    ("oneOf", oneOf),
    ("anyOf", anyOf),
    ("discriminator", .ofOption Discriminator.toJson k.discriminator),
    ("additionalProperties", additional),
    ("minimum", .ofOption .ofBinary64 k.minimum),
    ("maximum", .ofOption .ofBinary64 k.maximum),
    ("multipleOf", .ofOption .ofBinary64 k.multipleOf),
    ("minLength", .ofOption .ofCount k.minLength),
    ("maxLength", .ofOption .ofCount k.maxLength),
    ("pattern", .ofText? k.pattern),
    ("minItems", .ofOption .ofCount k.minItems),
    ("maxItems", .ofOption .ofCount k.maxItems),
    ("uniqueItems", .bool k.uniqueItems),
    ("nullable", .bool k.nullable)]

theorem keywordsOf?_fields {k : Keywords} (hproper : k.IsProper) (hfinite : k.IsFinite)
    {properties items allOf oneOf anyOf additional : Json}
    (hparts : ∀ value ∈ (fields k properties items allOf oneOf anyOf additional).map (·.2),
      (Node.ofJson value).depth ≤ limit) :
    keywordsOf? limit (Node.written (fields k properties items allOf oneOf anyOf additional)) =
      some k := by
  have hrequired : Node.list? textOf? limit (Node.ofJson (.ofList .string k.required)) =
      some k.required :=
    Node.readsBack_texts k.required limit (hparts _ (by simp [fields]))
  have henum : Node.option? (Node.list? Node.toJson? limit)
      (Node.ofJson (.ofOption .array k.enum)) = some k.enum := by
    apply option?_ofOption
    intro values hvalues
    refine ⟨by simp, Node.readsBack_values (hproper.enum values hvalues) limit ?_⟩
    exact hparts _ (by simp [fields, hvalues, Json.ofOption])
  have hdiscriminator : Node.option? (Discriminator.ofNode? limit)
      (Node.ofJson (.ofOption Discriminator.toJson k.discriminator)) = some k.discriminator := by
    apply option?_ofOption
    intro d hd
    refine ⟨by simp [Discriminator.toJson],
      Discriminator.readsBack (hproper.mapping d hd) limit ?_⟩
    exact hparts _ (by simp [fields, hd, Json.ofOption])
  simp [keywordsOf?, fields, Node.Record.optional?, Node.Record.defaulted?, hrequired, henum,
    hdiscriminator, option?_type, option?_format, Node.option?_ofBinary64 hfinite.minimum,
    Node.option?_ofBinary64 hfinite.maximum, Node.option?_ofBinary64 hfinite.multipleOf,
    Node.option?_ofCount hproper.minLength, Node.option?_ofCount hproper.maxLength,
    Node.option?_ofCount hproper.minItems, Node.option?_ofCount hproper.maxItems]

theorem schemasToJson_eq (schemas : List Schema) :
    schemasToJson schemas = schemas.map Schema.toJson := by
  induction schemas with
  | nil => rw [schemasToJson, List.map_nil]
  | cons first rest ih => rw [schemasToJson, ih, List.map_cons]

theorem propertiesToJson_eq (properties : List (String × Schema)) :
    propertiesToJson properties = properties.map fun e => (e.1, e.2.toJson) := by
  induction properties with
  | nil => rw [propertiesToJson, List.map_nil]
  | cons first rest ih => rw [propertiesToJson, ih, List.map_cons]

theorem schemaOptionToJson_eq (schema : Option Schema) :
    schemaOptionToJson schema = .ofOption Schema.toJson schema := by
  cases schema <;> rw [schemaOptionToJson] <;> rfl

theorem membersToJson_eq (members : Option (List Schema)) :
    membersToJson members = .ofOption (.ofList Schema.toJson) members := by
  cases members with
  | none =>
      rw [membersToJson]
      rfl
  | some schemas =>
      rw [membersToJson, schemasToJson_eq]
      rfl

/-- A flag or schema for additional members as JSON. -/
def additionalJson : AdditionalProperties Schema → Json
  | .allowed flag => .bool flag
  | .matching schema => schema.toJson

theorem additionalToJson_eq (additional : Option (AdditionalProperties Schema)) :
    additionalToJson additional = .ofOption additionalJson additional := by
  obtain _ | _ | _ := additional <;> rw [additionalToJson] <;> rfl

/-- What is written of a schema are its fields. -/
theorem toJson_eq (schema : Schema) :
    schema.toJson = .object (fields schema.toKeywords (.ofMap Schema.toJson schema.properties)
      (.ofOption Schema.toJson schema.items)
      (.ofOption (.ofList Schema.toJson) schema.allOf)
      (.ofOption (.ofList Schema.toJson) schema.oneOf)
      (.ofOption (.ofList Schema.toJson) schema.anyOf)
      (.ofOption additionalJson schema.additionalProperties)) := by
  obtain ⟨k, properties, items, allOf, oneOf, anyOf, additional⟩ := schema
  rw [Schema.toJson, propertiesToJson_eq, schemaOptionToJson_eq, membersToJson_eq,
    membersToJson_eq, membersToJson_eq, additionalToJson_eq]
  rfl

theorem toJson_ne_null (schema : Schema) : schema.toJson ≠ .null := by
  rw [toJson_eq]
  simp

/-- A schema is read field by field. -/
theorem ofNode?_succ (limit : ℕ) (node : Node) :
    ofNode? (limit + 1) node = (do
      let r ← node.record? fieldNames
      let keywords ← keywordsOf? limit r
      let properties ← r.defaulted? "properties" [] (Node.map? ofNode? limit)
      let items ← r.optional? "items" (ofNode? limit)
      let allOf ← r.optional? "allOf" (Node.list? ofNode? limit)
      let oneOf ← r.optional? "oneOf" (Node.list? ofNode? limit)
      let anyOf ← r.optional? "anyOf" (Node.list? ofNode? limit)
      let additionalProperties ←
        r.optional? "additionalProperties" (additionalOf? (ofNode? limit) limit)
      return { keywords with properties, items, allOf, oneOf, anyOf, additionalProperties }) := by
  rw [ofNode?]
  rfl

/-- The optional members of a composition are read back. -/
theorem option?_members {members : Option (List Schema)}
    (hread : ∀ schemas, members = some schemas →
      ∀ schema ∈ schemas, ReadsBack ofNode? Schema.toJson schema)
    (hdepth : (Node.ofJson (.ofOption (.ofList Schema.toJson) members)).depth ≤ limit) :
    Node.option? (Node.list? ofNode? limit)
      (Node.ofJson (.ofOption (.ofList Schema.toJson) members)) = some members := by
  apply option?_ofOption
  rintro schemas rfl
  exact ⟨by simp [Json.ofList], readsBack_list (hread schemas rfl) limit hdepth⟩

/-- What is said about additional members is read back. -/
theorem option?_additional {additional : Option (AdditionalProperties Schema)}
    (hread : ∀ schema, additional = some (.matching schema) →
      ReadsBack ofNode? Schema.toJson schema)
    (hdepth : (Node.ofJson (.ofOption additionalJson additional)).depth ≤ limit) :
    Node.option? (additionalOf? (ofNode? limit) limit)
      (Node.ofJson (.ofOption additionalJson additional)) = some additional := by
  apply option?_ofOption
  rintro (flag | schema) rfl
  · refine ⟨by simp [additionalJson], ?_⟩
    have hresolve := Node.resolve?_ofJson hdepth
    rw [Json.ofOption] at hresolve
    rw [additionalOf?, hresolve]
    rfl
  · refine ⟨schema.toJson_ne_null, ?_⟩
    have hresolve := Node.resolve?_ofJson hdepth
    have hschema : ofNode? limit (Node.ofJson schema.toJson) = some schema :=
      hread schema rfl limit hdepth
    rw [Json.ofOption, additionalJson, toJson_eq] at hresolve
    rw [toJson_eq] at hschema
    -- What is written of a schema is an object, which no flag is.
    rw [additionalOf?, additionalJson, toJson_eq, hresolve]
    exact congrArg (Option.map AdditionalProperties.matching) hschema

/-- A proper schema with finite bounds is read back. -/
theorem readsBack {schema : Schema} (hproper : schema.IsProper) (hfinite : schema.IsFinite) :
    ReadsBack ofNode? Schema.toJson schema := by
  induction hproper with
  | @intro schema here _ ih =>
      have hread {part : Schema} (hpart : part.IsPart schema) :
          ReadsBack ofNode? Schema.toJson part := ih part hpart (hfinite.of_isPart hpart)
      intro limit hdepth
      rw [toJson_eq] at hdepth ⊢
      obtain ⟨limit, rfl, hparts⟩ := Node.exists_lower_of_object hdepth
      have hkeywords := keywordsOf?_fields here.1 hfinite.here hparts
      have hproperties : Node.map? ofNode? limit
          (Node.ofJson (.ofMap Schema.toJson schema.properties)) = some schema.properties :=
        readsBack_map here.2 (fun e he => hread (.property he)) limit (hparts _ (by simp [fields]))
      have hitems : Node.option? (ofNode? limit)
          (Node.ofJson (.ofOption Schema.toJson schema.items)) = some schema.items := by
        apply option?_ofOption
        intro item hitem
        refine ⟨item.toJson_ne_null, hread (.items hitem) limit ?_⟩
        exact hparts _ (by simp [fields, hitem, Json.ofOption])
      have hallOf := option?_members (fun _ h s hs => hread (.allOf h hs))
        (hparts _ (by simp [fields]))
      have honeOf := option?_members (fun _ h s hs => hread (.oneOf h hs))
        (hparts _ (by simp [fields]))
      have hanyOf := option?_members (fun _ h s hs => hread (.anyOf h hs))
        (hparts _ (by simp [fields]))
      have hadditional := option?_additional (fun s h => hread (.additional h))
        (hparts _ (by simp [fields]))
      rw [ofNode?_succ, record?_ofObject]
      case hnames => rfl
      case hkeys => decide
      simp only [Option.bind_eq_bind, Option.bind_some, hkeywords]
      simp only [Node.Record.defaulted?, fields, ne_eq, String.reduceEq, not_false_eq_true,
        Node.field_written_of_ne, Node.field_written_self, hproperties, Node.Record.optional?,
        hitems, hallOf, honeOf, hanyOf, hadditional, Option.pure_def, Option.bind_some]
      cases schema
      rfl

/-- An optional schema is read back. -/
theorem option?_schema {schema : Option Schema}
    (hread : ∀ s ∈ schema.toList, ReadsBack ofNode? Schema.toJson s)
    (hdepth : (Node.ofJson (schemaOptionToJson schema)).depth ≤ limit) :
    Node.option? (ofNode? limit) (Node.ofJson (schemaOptionToJson schema)) = some schema := by
  rw [schemaOptionToJson_eq] at hdepth ⊢
  apply option?_ofOption
  rintro s rfl
  exact ⟨s.toJson_ne_null, hread s (by simp) limit hdepth⟩

end Schema

/-! ## Parameters and bodies -/

section Spine

variable {limit : ℕ}

theorem Parameter.readsBack {p : Parameter}
    (hread : ∀ s ∈ p.schema.toList, ReadsBack Schema.ofNode? Schema.toJson s) :
    ReadsBack Parameter.ofNode? Parameter.toJson p := by
  intro limit hdepth
  rw [Parameter.toJson] at hdepth ⊢
  obtain ⟨limit, rfl, hparts⟩ := Node.exists_lower_of_object hdepth
  have hschema := Schema.option?_schema hread (hparts _ (by simp))
  rw [Parameter.ofNode?, record?_ofObject]
  case hnames => rfl
  case hkeys => decide
  simp [Node.Record.required?, Node.Record.optional?, Node.Record.defaulted?,
    Location.ofNode?_name, hschema]

/-- What is written of a parameter has no reference. -/
theorem referenceOf?_parameter (p : Parameter) : referenceOf? (Node.ofJson p.toJson) = none :=
  rfl

theorem ParameterOrRef.readsBack {p : ParameterOrRef}
    (hread : ∀ s ∈ p.rootSchemas, ReadsBack Schema.ofNode? Schema.toJson s) :
    ReadsBack ParameterOrRef.ofNode? ParameterOrRef.toJson p := by
  intro limit hdepth
  rw [ParameterOrRef.ofNode?, Node.resolve?_ofJson hdepth]
  cases p with
  | reference target => rfl
  | parameter p =>
      have hparameter := Parameter.readsBack hread limit hdepth
      simp only [ParameterOrRef.toJson, Option.bind_eq_bind, Option.bind_some,
        referenceOf?_parameter, hparameter, Option.map_some]

theorem MediaType.readsBack {m : MediaType}
    (hread : ∀ s ∈ m.schema.toList, ReadsBack Schema.ofNode? Schema.toJson s) :
    ReadsBack MediaType.ofNode? MediaType.toJson m := by
  intro limit hdepth
  rw [MediaType.toJson] at hdepth ⊢
  obtain ⟨limit, rfl, hparts⟩ := Node.exists_lower_of_object hdepth
  have hschema := Schema.option?_schema hread (hparts _ (by simp))
  rw [MediaType.ofNode?, record?_ofObject]
  case hnames => rfl
  case hkeys => decide
  simp [Node.Record.optional?, hschema]

theorem RequestBody.readsBack {b : RequestBody} (hkeys : (b.content.map (·.1)).Nodup)
    (hread : ∀ s ∈ b.rootSchemas, ReadsBack Schema.ofNode? Schema.toJson s) :
    ReadsBack RequestBody.ofNode? RequestBody.toJson b := by
  intro limit hdepth
  rw [RequestBody.toJson] at hdepth ⊢
  obtain ⟨limit, rfl, hparts⟩ := Node.exists_lower_of_object hdepth
  have hcontent : Node.map? MediaType.ofNode? limit
      (Node.ofJson (.ofMap MediaType.toJson b.content)) = some b.content := by
    refine readsBack_map hkeys ?_ limit (hparts _ (by simp))
    intro e he
    exact MediaType.readsBack fun s hs => hread s (List.mem_flatMap.mpr ⟨e, he, hs⟩)
  rw [RequestBody.ofNode?, record?_ofObject]
  case hnames => rfl
  case hkeys => decide
  simp [Node.Record.optional?, Node.Record.defaulted?, hcontent]

/-! ## Operations and paths -/

theorem readsBack_requirement {requirement : SecurityRequirement}
    (hkeys : requirement.HasDistinctKeys) :
    ReadsBack requirementOf? requirementToJson requirement :=
  readsBack_map hkeys fun e _ => Node.readsBack_texts e.2

theorem readsBack_parameters {parameters : List ParameterOrRef}
    (hread : ∀ s ∈ parameters.flatMap ParameterOrRef.rootSchemas,
      ReadsBack Schema.ofNode? Schema.toJson s) :
    ReadsBack (Node.list? ParameterOrRef.ofNode?) (.ofList ParameterOrRef.toJson) parameters := by
  apply readsBack_list
  intro p hp
  exact ParameterOrRef.readsBack fun s hs => hread s (List.mem_flatMap.mpr ⟨p, hp, hs⟩)

theorem Operation.readsBack {o : Operation} (hkeys : o.HasDistinctKeys)
    (hread : ∀ s ∈ o.rootSchemas, ReadsBack Schema.ofNode? Schema.toJson s) :
    ReadsBack Operation.ofNode? Operation.toJson o := by
  intro limit hdepth
  rw [Operation.toJson] at hdepth ⊢
  obtain ⟨limit, rfl, hparts⟩ := Node.exists_lower_of_object hdepth
  have hparameters : Node.list? ParameterOrRef.ofNode? limit
      (Node.ofJson (.ofList ParameterOrRef.toJson o.parameters)) = some o.parameters :=
    readsBack_parameters (fun s hs => hread s (List.mem_append_left _ hs)) limit
      (hparts _ (by simp))
  have hbody : Node.option? (RequestBody.ofNode? limit)
      (Node.ofJson (.ofOption RequestBody.toJson o.requestBody)) = some o.requestBody := by
    apply option?_ofOption
    intro b hb
    refine ⟨by simp [RequestBody.toJson], RequestBody.readsBack (hkeys.content b hb) ?_ limit ?_⟩
    · intro s hs
      exact hread s (List.mem_append_right _ (by simpa [hb] using hs))
    · exact hparts _ (by simp [hb, Json.ofOption])
  have hsecurity : Node.option? (Node.list? requirementOf? limit)
      (Node.ofJson (.ofOption (.ofList requirementToJson) o.security)) = some o.security := by
    apply option?_ofOption
    intro requirements hrequirements
    refine ⟨by simp [Json.ofList], readsBack_list ?_ limit ?_⟩
    · intro requirement hmem
      exact readsBack_requirement (hkeys.security requirements hrequirements requirement hmem)
    · exact hparts _ (by simp [hrequirements, Json.ofOption])
  rw [Operation.ofNode?, record?_ofObject]
  case hnames => rfl
  case hkeys => decide
  simp [Node.Record.optional?, Node.Record.defaulted?, hparameters, hbody, hsecurity]

/-- An optional operation is read back. -/
theorem option?_operation {operation : Option Operation}
    (hkeys : ∀ o, operation = some o → o.HasDistinctKeys)
    (hread : ∀ o, operation = some o →
      ∀ s ∈ o.rootSchemas, ReadsBack Schema.ofNode? Schema.toJson s)
    (hdepth : (Node.ofJson (.ofOption Operation.toJson operation)).depth ≤ limit) :
    Node.option? (Operation.ofNode? limit)
      (Node.ofJson (.ofOption Operation.toJson operation)) = some operation := by
  apply option?_ofOption
  rintro o rfl
  exact ⟨by simp [Operation.toJson], Operation.readsBack (hkeys o rfl) (hread o rfl) limit hdepth⟩

theorem PathItem.readsBack {p : PathItem} (hkeys : ∀ o ∈ p.operations, o.HasDistinctKeys)
    (hread : ∀ s ∈ p.rootSchemas, ReadsBack Schema.ofNode? Schema.toJson s) :
    ReadsBack PathItem.ofNode? PathItem.toJson p := by
  intro limit hdepth
  rw [PathItem.toJson] at hdepth ⊢
  obtain ⟨limit, rfl, hparts⟩ := Node.exists_lower_of_object hdepth
  have hparameters : Node.list? ParameterOrRef.ofNode? limit
      (Node.ofJson (.ofList ParameterOrRef.toJson p.parameters)) = some p.parameters :=
    readsBack_parameters (fun s hs => hread s (List.mem_append_right _ hs)) limit
      (hparts _ (by simp))
  have hoperation (operation : Option Operation)
      (hmem : operation ∈ [p.get, p.put, p.post, p.delete, p.options, p.head, p.patch, p.trace])
      (hdepth : (Node.ofJson (.ofOption Operation.toJson operation)).depth ≤ limit) :
      Node.option? (Operation.ofNode? limit)
        (Node.ofJson (.ofOption Operation.toJson operation)) = some operation := by
    have hlisted {o : Operation} (h : operation = some o) : o ∈ p.operations :=
      List.mem_filterMap.mpr ⟨operation, hmem, h⟩
    refine option?_operation (fun o ho => hkeys o (hlisted ho)) ?_ hdepth
    intro o ho s hs
    exact hread s (List.mem_append_left _ (List.mem_flatMap.mpr ⟨o, hlisted ho, hs⟩))
  have hget := hoperation p.get (by simp) (hparts _ (by simp))
  have hput := hoperation p.put (by simp) (hparts _ (by simp))
  have hpost := hoperation p.post (by simp) (hparts _ (by simp))
  have hdelete := hoperation p.delete (by simp) (hparts _ (by simp))
  have hoptions := hoperation p.options (by simp) (hparts _ (by simp))
  have hhead := hoperation p.head (by simp) (hparts _ (by simp))
  have hpatch := hoperation p.patch (by simp) (hparts _ (by simp))
  have htrace := hoperation p.trace (by simp) (hparts _ (by simp))
  rw [PathItem.ofNode?, record?_ofObject]
  case hnames => rfl
  case hkeys => decide
  simp [Node.Record.optional?, Node.Record.defaulted?, hparameters, hget, hput, hpost, hdelete,
    hoptions, hhead, hpatch, htrace]

end Spine

/-! ## Components and documents -/

theorem SecurityScheme.readsBack (s : SecurityScheme) :
    ReadsBack SecurityScheme.ofNode? SecurityScheme.toJson s := by
  intro limit hdepth
  rw [SecurityScheme.toJson] at hdepth ⊢
  obtain ⟨limit, rfl, -⟩ := Node.exists_lower_of_object hdepth
  have hlocation : Node.option? Location.ofNode?
      (Node.ofJson (.ofOption (fun l => .string l.name) s.location)) = some s.location :=
    option?_ofOption fun l _ => ⟨by simp, l.ofNode?_name⟩
  rw [SecurityScheme.ofNode?, record?_ofObject]
  case hnames => rfl
  case hkeys => decide
  simp [Node.Record.required?, Node.Record.optional?, SecurityKind.ofNode?_name, hlocation]

theorem Components.readsBack {c : Components} (hkeys : c.HasDistinctKeys)
    (hread : ∀ s ∈ c.rootSchemas, ReadsBack Schema.ofNode? Schema.toJson s) :
    ReadsBack Components.ofNode? Components.toJson c := by
  intro limit hdepth
  rw [Components.toJson] at hdepth ⊢
  obtain ⟨limit, rfl, hparts⟩ := Node.exists_lower_of_object hdepth
  have hschemas : Node.map? Schema.ofNode? limit
      (Node.ofJson (.ofMap Schema.toJson c.schemas)) = some c.schemas := by
    refine readsBack_map hkeys.schemas ?_ limit (hparts _ (by simp))
    intro e he
    exact hread e.2 (List.mem_append_left _ (List.mem_map_of_mem he))
  have hparameters : Node.map? Parameter.ofNode? limit
      (Node.ofJson (.ofMap Parameter.toJson c.parameters)) = some c.parameters := by
    refine readsBack_map hkeys.parameters ?_ limit (hparts _ (by simp))
    intro e he
    apply Parameter.readsBack
    intro s hs
    exact hread s (List.mem_append_right _ (List.mem_flatMap.mpr ⟨e, he, hs⟩))
  have hschemes : Node.map? SecurityScheme.ofNode? limit
      (Node.ofJson (.ofMap SecurityScheme.toJson c.securitySchemes)) = some c.securitySchemes :=
    readsBack_map hkeys.securitySchemes (fun e _ => e.2.readsBack) limit (hparts _ (by simp))
  rw [Components.ofNode?, record?_ofObject]
  case hnames => rfl
  case hkeys => decide
  simp [Node.Record.defaulted?, hschemas, hparameters, hschemes]

theorem Info.readsBack (i : Info) : ReadsBack Info.ofNode? Info.toJson i := by
  intro limit hdepth
  rw [Info.toJson] at hdepth ⊢
  obtain ⟨limit, rfl, -⟩ := Node.exists_lower_of_object hdepth
  rw [Info.ofNode?, record?_ofObject]
  case hnames => rfl
  case hkeys => decide
  simp [Node.Record.optional?, Node.Record.defaulted?]

theorem Server.readsBack (s : Server) : ReadsBack Server.ofNode? Server.toJson s := by
  intro limit hdepth
  rw [Server.toJson] at hdepth ⊢
  obtain ⟨limit, rfl, -⟩ := Node.exists_lower_of_object hdepth
  rw [Server.ofNode?, record?_ofObject]
  case hnames => rfl
  case hkeys => decide
  simp [Node.Record.required?, Node.Record.optional?]

/-- A document whose maps have different keys is read back if its schemas are. -/
theorem Document.readsBack_of_schemas {d : Document} (hkeys : d.HasDistinctKeys)
    (hread : ∀ s ∈ d.rootSchemas, ReadsBack Schema.ofNode? Schema.toJson s) :
    ReadsBack Document.ofNode? Document.toJson d := by
  intro limit hdepth
  rw [Document.toJson] at hdepth ⊢
  obtain ⟨limit, rfl, hparts⟩ := Node.exists_lower_of_object hdepth
  have hinfo : Node.option? (Info.ofNode? limit)
      (Node.ofJson (.ofOption Info.toJson d.info)) = some d.info := by
    apply option?_ofOption
    intro i hi
    refine ⟨by simp [Info.toJson], i.readsBack limit ?_⟩
    exact hparts _ (by simp [hi, Json.ofOption])
  have hservers : Node.list? Server.ofNode? limit
      (Node.ofJson (.ofList Server.toJson d.servers)) = some d.servers :=
    readsBack_list (fun s _ => s.readsBack) limit (hparts _ (by simp))
  have hpaths : Node.map? PathItem.ofNode? limit
      (Node.ofJson (.ofMap PathItem.toJson d.paths)) = some d.paths := by
    refine readsBack_map hkeys.paths ?_ limit (hparts _ (by simp))
    intro e he
    apply PathItem.readsBack (hkeys.operations e he)
    intro s hs
    exact hread s (List.mem_append_left _ (List.mem_flatMap.mpr ⟨e, he, hs⟩))
  have hcomponents : Node.option? (Components.ofNode? limit)
      (Node.ofJson (.ofOption Components.toJson d.components)) = some d.components := by
    apply option?_ofOption
    intro c hc
    refine ⟨by simp [Components.toJson],
      Components.readsBack (hkeys.components c hc) ?_ limit ?_⟩
    · intro s hs
      exact hread s (List.mem_append_right _ (by simpa [hc] using hs))
    · exact hparts _ (by simp [hc, Json.ofOption])
  have hsecurity : Node.list? requirementOf? limit
      (Node.ofJson (.ofList requirementToJson d.security)) = some d.security := by
    refine readsBack_list ?_ limit (hparts _ (by simp))
    intro requirement hmem
    exact readsBack_requirement (hkeys.security requirement hmem)
  rw [Document.ofNode?, record?_ofObject]
  case hnames => rfl
  case hkeys => decide
  simp [Node.Record.required?, Node.Record.optional?, Node.Record.defaulted?, hinfo, hservers,
    hpaths, hcomponents, hsecurity]

/-- A proper document with finite bounds is read back from what is written of it. -/
theorem Document.readsBack {d : Document} (hproper : d.IsProper) (hfinite : d.IsFinite) :
    ReadsBack Document.ofNode? Document.toJson d :=
  readsBack_of_schemas hproper.hasDistinctKeys fun s hs =>
    Schema.readsBack (hproper.schemas s hs) (hfinite s hs)

end ApiContract
