import ApiContract.Document.Basic
import ApiContract.Proofs.Json.Canonical

/-!
# Proper documents

A document is proper if its maps have different keys, its counts fit 64 bits and its JSON
values are canonical.  Its numbers are finite or not; only a reader of other texts than
JSON meets infinities.  The schemas of a document are those at its roots and all parts of
them.
-/

namespace ApiContract

/-- Counts fit 64 bits, and values are canonical. -/
structure Keywords.IsProper (k : Keywords) : Prop where
  enum : ∀ values, k.enum = some values → ∀ value ∈ values, value.Canonical
  mapping : ∀ d, k.discriminator = some d → (d.mapping.map (·.1)).Nodup
  minLength : ∀ n, k.minLength = some n → n < 2 ^ 64
  maxLength : ∀ n, k.maxLength = some n → n < 2 ^ 64
  minItems : ∀ n, k.minItems = some n → n < 2 ^ 64
  maxItems : ∀ n, k.maxItems = some n → n < 2 ^ 64

/-- The bounds for numbers are finite. -/
structure Keywords.IsFinite (k : Keywords) : Prop where
  minimum : ∀ x, k.minimum = some x → x.isFinite = true
  maximum : ∀ x, k.maximum = some x → x.isFinite = true
  multipleOf : ∀ x, k.multipleOf = some x → x.isFinite = true

namespace Schema

/-- The schema stands directly in the other one. -/
inductive IsPart (part whole : Schema) : Prop
  | property {name : String} (h : (name, part) ∈ whole.properties)
  | items (h : whole.items = some part)
  | allOf {members : List Schema} (h : whole.allOf = some members) (hmem : part ∈ members)
  | oneOf {members : List Schema} (h : whole.oneOf = some members) (hmem : part ∈ members)
  | anyOf {members : List Schema} (h : whole.anyOf = some members) (hmem : part ∈ members)
  | additional (h : whole.additionalProperties = some (.matching part))

/-- Something holds of a schema and of everything in it. -/
inductive All (P : Schema → Prop) : Schema → Prop
  | intro {schema : Schema} (here : P schema)
      (parts : ∀ part, IsPart part schema → All P part) : All P schema

namespace All

variable {P : Schema → Prop} {schema part : Schema}

theorem here (h : schema.All P) : P schema := by
  cases h with
  | intro here _ => exact here

theorem of_isPart (h : schema.All P) (hpart : IsPart part schema) : part.All P := by
  cases h with
  | intro _ parts => exact parts part hpart

end All

/-- All in the schema is proper. -/
def IsProper (schema : Schema) : Prop :=
  schema.All fun s => s.toKeywords.IsProper ∧ (s.properties.map (·.1)).Nodup

/-- All bounds in the schema are finite. -/
def IsFinite (schema : Schema) : Prop :=
  schema.All fun s => s.toKeywords.IsFinite

end Schema

/-! ## The schemas at the roots of a document -/

/-- The schema of a parameter. -/
def ParameterOrRef.rootSchemas : ParameterOrRef → List Schema
  | .reference _ => []
  | .parameter p => p.schema.toList

/-- The schemas for the bodies. -/
def RequestBody.rootSchemas (b : RequestBody) : List Schema :=
  b.content.flatMap fun e => e.2.schema.toList

/-- The schemas for the parameters and the bodies of an operation. -/
def Operation.rootSchemas (o : Operation) : List Schema :=
  o.parameters.flatMap ParameterOrRef.rootSchemas ++
    o.requestBody.toList.flatMap RequestBody.rootSchemas

/-- The operations on a path. -/
def PathItem.operations (p : PathItem) : List Operation :=
  [p.get, p.put, p.post, p.delete, p.options, p.head, p.patch, p.trace].filterMap id

/-- The schemas for the operations on a path. -/
def PathItem.rootSchemas (p : PathItem) : List Schema :=
  p.operations.flatMap Operation.rootSchemas ++
    p.parameters.flatMap ParameterOrRef.rootSchemas

/-- The schemas that are declared, or that declared parameters have. -/
def Components.rootSchemas (c : Components) : List Schema :=
  c.schemas.map (·.2) ++ c.parameters.flatMap fun e => e.2.schema.toList

/-- The schemas of a document that stand in no other one. -/
def Document.rootSchemas (d : Document) : List Schema :=
  (d.paths.flatMap fun e => e.2.rootSchemas) ++ d.components.toList.flatMap Components.rootSchemas

/-! ## The maps of a document -/

/-- The schemes that must be satisfied together are different ones. -/
def SecurityRequirement.HasDistinctKeys (requirement : SecurityRequirement) : Prop :=
  (requirement.map (·.1)).Nodup

/-- The media types of bodies, and the schemes of each requirement, are different ones. -/
structure Operation.HasDistinctKeys (o : Operation) : Prop where
  content : ∀ b, o.requestBody = some b → (b.content.map (·.1)).Nodup
  security : ∀ requirements, o.security = some requirements →
    ∀ requirement ∈ requirements, requirement.HasDistinctKeys

/-- What is declared is declared under different names. -/
structure Components.HasDistinctKeys (c : Components) : Prop where
  schemas : (c.schemas.map (·.1)).Nodup
  parameters : (c.parameters.map (·.1)).Nodup
  securitySchemes : (c.securitySchemes.map (·.1)).Nodup

/-- All maps have different keys. -/
structure Document.HasDistinctKeys (d : Document) : Prop where
  paths : (d.paths.map (·.1)).Nodup
  operations : ∀ e ∈ d.paths, ∀ o ∈ e.2.operations, o.HasDistinctKeys
  components : ∀ c, d.components = some c → c.HasDistinctKeys
  security : ∀ requirement ∈ d.security, requirement.HasDistinctKeys

/-- The maps of a document have different keys, and its schemas are proper. -/
structure Document.IsProper (d : Document) : Prop where
  hasDistinctKeys : d.HasDistinctKeys
  schemas : ∀ schema ∈ d.rootSchemas, schema.IsProper

/-- All bounds for numbers in a document are finite. -/
def Document.IsFinite (d : Document) : Prop :=
  ∀ schema ∈ d.rootSchemas, schema.IsFinite

end ApiContract
