import ApiContract.Document.Basic

/-!
# Writing documents as JSON

Every field of every part appears; what is absent is null, and maps are objects.
-/

namespace ApiContract

namespace Json

/-- The value of an optional part. -/
def ofOption {α : Type} (write : α → Json) : Option α → Json
  | none => .null
  | some x => write x

/-- The value of an optional text. -/
def ofText? (text : Option String) : Json :=
  ofOption .string text

/-- The value of a count. -/
def ofCount (n : Nat) : Json :=
  .number (.integer n)

/-- The value of a binary64 number; one that is not finite is null. -/
def ofBinary64 (x : Binary64) : Json :=
  if x.isFinite then .number (.float x) else .null

/-- The object of a map. -/
def ofMap {α : Type} (write : α → Json) (map : List (String × α)) : Json :=
  .object (map.map fun e => (e.1, write e.2))

/-- The array of a list. -/
def ofList {α : Type} (write : α → Json) (xs : List α) : Json :=
  .array (xs.map write)

end Json

/-- A discriminator as JSON. -/
def Discriminator.toJson (d : Discriminator) : Json :=
  .object [("propertyName", .string d.propertyName), ("mapping", .ofMap .string d.mapping)]

mutual
/-- A schema as JSON. -/
def Schema.toJson : Schema → Json
  | ⟨k, properties, items, allOf, oneOf, anyOf, additionalProperties⟩ =>
      .object [
        ("$ref", .ofText? k.ref),
        ("type", .ofOption (fun t => .string t.name) k.type),
        ("format", .ofOption (fun f => .string f.name) k.format),
        ("title", .ofText? k.title),
        ("description", .ofText? k.description),
        ("properties", .object (propertiesToJson properties)),
        ("items", schemaOptionToJson items),
        ("required", .ofList .string k.required),
        ("enum", .ofOption .array k.enum),
        ("allOf", membersToJson allOf),
        ("oneOf", membersToJson oneOf),
        ("anyOf", membersToJson anyOf),
        ("discriminator", .ofOption Discriminator.toJson k.discriminator),
        ("additionalProperties", additionalToJson additionalProperties),
        ("minimum", .ofOption .ofBinary64 k.minimum),
        ("maximum", .ofOption .ofBinary64 k.maximum),
        ("multipleOf", .ofOption .ofBinary64 k.multipleOf),
        ("minLength", .ofOption .ofCount k.minLength),
        ("maxLength", .ofOption .ofCount k.maxLength),
        ("pattern", .ofText? k.pattern),
        ("minItems", .ofOption .ofCount k.minItems),
        ("maxItems", .ofOption .ofCount k.maxItems),
        ("uniqueItems", .bool k.uniqueItems),
        ("nullable", .bool k.nullable)]

/-- An optional schema as JSON. -/
def schemaOptionToJson : Option Schema → Json
  | none => .null
  | some schema => schema.toJson

/-- The members of a composition as JSON. -/
def membersToJson : Option (List Schema) → Json
  | none => .null
  | some schemas => .array (schemasToJson schemas)

/-- Schemas as JSON. -/
def schemasToJson : List Schema → List Json
  | [] => []
  | schema :: rest => schema.toJson :: schemasToJson rest

/-- Schemas under names as JSON. -/
def propertiesToJson : List (String × Schema) → List (String × Json)
  | [] => []
  | (name, schema) :: rest => (name, schema.toJson) :: propertiesToJson rest

/-- What a schema says about additional members as JSON. -/
def additionalToJson : Option (AdditionalProperties Schema) → Json
  | none => .null
  | some (.allowed b) => .bool b
  | some (.matching schema) => schema.toJson
end

/-- A parameter as JSON. -/
def Parameter.toJson (p : Parameter) : Json :=
  .object [
    ("name", .string p.name),
    ("in", .string p.location.name),
    ("required", .bool p.required),
    ("description", .ofText? p.description),
    ("schema", schemaOptionToJson p.schema)]

/-- A parameter or a reference to one as JSON. -/
def ParameterOrRef.toJson : ParameterOrRef → Json
  | .reference target => .object [("$ref", .string target)]
  | .parameter p => p.toJson

/-- A media type as JSON. -/
def MediaType.toJson (m : MediaType) : Json :=
  .object [("schema", schemaOptionToJson m.schema)]

/-- A request body as JSON. -/
def RequestBody.toJson (b : RequestBody) : Json :=
  .object [
    ("description", .ofText? b.description),
    ("required", .bool b.required),
    ("content", .ofMap MediaType.toJson b.content)]

/-- A security requirement as JSON. -/
def requirementToJson (requirement : SecurityRequirement) : Json :=
  .ofMap (.ofList .string) requirement

/-- An operation as JSON. -/
def Operation.toJson (o : Operation) : Json :=
  .object [
    ("summary", .ofText? o.summary),
    ("description", .ofText? o.description),
    ("operationId", .ofText? o.operationId),
    ("parameters", .ofList ParameterOrRef.toJson o.parameters),
    ("requestBody", .ofOption RequestBody.toJson o.requestBody),
    ("security", .ofOption (.ofList requirementToJson) o.security)]

/-- The operations on a path as JSON. -/
def PathItem.toJson (p : PathItem) : Json :=
  .object [
    ("summary", .ofText? p.summary),
    ("description", .ofText? p.description),
    ("get", .ofOption Operation.toJson p.get),
    ("put", .ofOption Operation.toJson p.put),
    ("post", .ofOption Operation.toJson p.post),
    ("delete", .ofOption Operation.toJson p.delete),
    ("options", .ofOption Operation.toJson p.options),
    ("head", .ofOption Operation.toJson p.head),
    ("patch", .ofOption Operation.toJson p.patch),
    ("trace", .ofOption Operation.toJson p.trace),
    ("parameters", .ofList ParameterOrRef.toJson p.parameters)]

/-- A security scheme as JSON. -/
def SecurityScheme.toJson (s : SecurityScheme) : Json :=
  .object [
    ("type", .string s.kind.name),
    ("description", .ofText? s.description),
    ("name", .ofText? s.name),
    ("in", .ofOption (fun l => .string l.name) s.location),
    ("scheme", .ofText? s.scheme),
    ("bearerFormat", .ofText? s.bearerFormat),
    ("openIdConnectUrl", .ofText? s.openIdConnectUrl)]

/-- Components as JSON. -/
def Components.toJson (c : Components) : Json :=
  .object [
    ("schemas", .ofMap Schema.toJson c.schemas),
    ("parameters", .ofMap Parameter.toJson c.parameters),
    ("securitySchemes", .ofMap SecurityScheme.toJson c.securitySchemes)]

/-- The title and version of a document as JSON. -/
def Info.toJson (i : Info) : Json :=
  .object [
    ("title", .string i.title),
    ("description", .ofText? i.description),
    ("version", .string i.version)]

/-- A server as JSON. -/
def Server.toJson (s : Server) : Json :=
  .object [("url", .string s.url), ("description", .ofText? s.description)]

/-- A document as JSON. -/
def Document.toJson (d : Document) : Json :=
  .object [
    ("openapi", .string d.version),
    ("info", .ofOption Info.toJson d.info),
    ("servers", .ofList Server.toJson d.servers),
    ("paths", .ofMap PathItem.toJson d.paths),
    ("components", .ofOption Components.toJson d.components),
    ("security", .ofList requirementToJson d.security)]

end ApiContract
