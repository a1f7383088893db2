import ApiContract.Document.Basic
import ApiContract.Node.Record

/-!
# Reading documents from nodes

Every part of a document is a record.  Fields that are not known are skipped, a field
that occurs twice is refused.  A parameter or a reference to one, and the schema or flag
for additional members, are read from the resolved node, since only its form tells which
of the two it is.
-/

namespace ApiContract

/-- Reads a value type. -/
def ValueType.ofNode? (node : Node) : Option ValueType :=
  (node.toChoice? (named.map (·.1))).map ofName

/-- Reads a format. -/
def Format.ofNode? (node : Node) : Option Format :=
  (node.toChoice? (named.map (·.1))).map ofName

/-- Reads a location. -/
def Location.ofNode? (node : Node) : Option Location :=
  (node.toChoice? (named.map (·.1))).bind fun name => named.lookup name

/-- Reads a kind of security scheme. -/
def SecurityKind.ofNode? (node : Node) : Option SecurityKind :=
  (node.toChoice? (named.map (·.1))).map ofName

/-- Reads a text. -/
def textOf? (_limit : Nat) (node : Node) : Option String :=
  node.text?

/-- Reads a discriminator. -/
def Discriminator.ofNode? (limit : Nat) (node : Node) : Option Discriminator :=
  match limit with
  | 0 => none
  | limit + 1 => do
      let r ← node.record? ["propertyName", "mapping"]
      let propertyName ← r.required? "propertyName" Node.text?
      let mapping ← r.defaulted? "mapping" [] (Node.map? textOf? limit)
      return { propertyName, mapping }

namespace Schema

/-- The fields of a schema, in the order of their positions. -/
def fieldNames : List String :=
  ["$ref", "type", "format", "title", "description", "properties", "items", "required",
    "enum", "allOf", "oneOf", "anyOf", "discriminator", "additionalProperties", "minimum",
    "maximum", "multipleOf", "minLength", "maxLength", "pattern", "minItems", "maxItems",
    "uniqueItems", "nullable"]

/-- Reads the keywords that hold no other schemas. -/
def keywordsOf? (limit : Nat) (r : Node.Record) : Option Keywords := do
  let ref ← r.optional? "$ref" Node.text?
  let type ← r.optional? "type" ValueType.ofNode?
  let format ← r.optional? "format" Format.ofNode?
  let title ← r.optional? "title" Node.text?
  let description ← r.optional? "description" Node.text?
  let required ← r.defaulted? "required" [] (Node.list? textOf? limit)
  let enum ← r.optional? "enum" (Node.list? Node.toJson? limit)
  let discriminator ← r.optional? "discriminator" (Discriminator.ofNode? limit)
  let minimum ← r.optional? "minimum" Node.toFloat?
  let maximum ← r.optional? "maximum" Node.toFloat?
  let multipleOf ← r.optional? "multipleOf" Node.toFloat?
  let minLength ← r.optional? "minLength" Node.toCount?
  let maxLength ← r.optional? "maxLength" Node.toCount?
  let pattern ← r.optional? "pattern" Node.text?
  let minItems ← r.optional? "minItems" Node.toCount?
  let maxItems ← r.optional? "maxItems" Node.toCount?
  let uniqueItems ← r.defaulted? "uniqueItems" false Node.toBool?
  let nullable ← r.defaulted? "nullable" false Node.toBool?
  return { ref, type, format, title, description, required, enum, discriminator, minimum,
           maximum, multipleOf, minLength, maxLength, pattern, minItems, maxItems,
           uniqueItems, nullable }

/-- Reads the flag or schema for additional members from a resolved node. -/
def additionalOf? (read : Node → Option Schema) (limit : Nat) (node : Node) :
    Option (AdditionalProperties Schema) := do
  let resolved ← node.resolve? limit
  match resolved with
  | .bool b => return .allowed b
  | _ => (read resolved).map .matching

/-- Reads a schema. -/
def ofNode? (limit : Nat) (node : Node) : Option Schema :=
  match limit with
  | 0 => none
  | limit + 1 => do
      let r ← node.record? fieldNames
      let keywords ← keywordsOf? limit r
      let inner (node : Node) : Option Schema := ofNode? limit node
      let nested (node : Node) : Option Schema := ofNode? (limit - 1) node
      let members (node : Node) : Option (List Schema) := do
        (← node.items? limit).mapM nested
      let properties ← r.defaulted? "properties" [] fun node => do
        let values ← Node.values? nested (← node.entries? limit)
        return Node.mapOfEntries values
      let items ← r.optional? "items" inner
      let allOf ← r.optional? "allOf" members
      let oneOf ← r.optional? "oneOf" members
      let anyOf ← r.optional? "anyOf" members
      let additionalProperties ← r.optional? "additionalProperties" (additionalOf? inner limit)
      return { keywords with properties, items, allOf, oneOf, anyOf, additionalProperties }
termination_by limit
decreasing_by all_goals omega

end Schema

/-- Reads a parameter. -/
def Parameter.ofNode? (limit : Nat) (node : Node) : Option Parameter :=
  match limit with
  | 0 => none
  | limit + 1 => do
      let r ← node.record? ["name", "in", "required", "description", "schema"]
      let name ← r.required? "name" Node.text?
      let location ← r.required? "in" Location.ofNode?
      let required ← r.defaulted? "required" false Node.toBool?
      let description ← r.optional? "description" Node.text?
      let schema ← r.optional? "schema" (Schema.ofNode? limit)
      return { name, location, required, description, schema }

/-- Reads a reference from a resolved node, which must be a mapping. -/
def referenceOf? (node : Node) : Option String :=
  match node with
  | .mapping .. => do
      let r ← node.record? ["$ref"]
      r.required? "$ref" Node.text?
  | _ => none

/-- Reads a parameter or a reference to one. -/
def ParameterOrRef.ofNode? (limit : Nat) (node : Node) : Option ParameterOrRef := do
  let resolved ← node.resolve? limit
  match referenceOf? resolved with
  | some target => return .reference target
  | none => (Parameter.ofNode? limit resolved).map .parameter

/-- Reads a media type. -/
def MediaType.ofNode? (limit : Nat) (node : Node) : Option MediaType :=
  match limit with
  | 0 => none
  | limit + 1 => do
      let r ← node.record? ["schema"]
      let schema ← r.optional? "schema" (Schema.ofNode? limit)
      return { schema }

/-- Reads a request body. -/
def RequestBody.ofNode? (limit : Nat) (node : Node) : Option RequestBody :=
  match limit with
  | 0 => none
  | limit + 1 => do
      let r ← node.record? ["description", "required", "content"]
      let description ← r.optional? "description" Node.text?
      let required ← r.defaulted? "required" false Node.toBool?
      let content ← r.defaulted? "content" [] (Node.map? MediaType.ofNode? limit)
      return { description, required, content }

/-- Reads a security requirement. -/
def requirementOf? (limit : Nat) (node : Node) : Option SecurityRequirement :=
  node.map? (Node.list? textOf?) limit

/-- Reads an operation. -/
def Operation.ofNode? (limit : Nat) (node : Node) : Option Operation :=
  match limit with
  | 0 => none
  | limit + 1 => do
      let r ← node.record? ["summary", "description", "operationId", "parameters",
        "requestBody", "security"]
      let summary ← r.optional? "summary" Node.text?
      let description ← r.optional? "description" Node.text?
      let operationId ← r.optional? "operationId" Node.text?
      let parameters ← r.defaulted? "parameters" [] (Node.list? ParameterOrRef.ofNode? limit)
      let requestBody ← r.optional? "requestBody" (RequestBody.ofNode? limit)
      let security ← r.optional? "security" (Node.list? requirementOf? limit)
      return { summary, description, operationId, parameters, requestBody, security }

/-- Reads the operations on a path. -/
def PathItem.ofNode? (limit : Nat) (node : Node) : Option PathItem :=
  match limit with
  | 0 => none
  | limit + 1 => do
      let r ← node.record? ["summary", "description", "get", "put", "post", "delete",
        "options", "head", "patch", "trace", "parameters"]
      let operation (name : String) : Option (Option Operation) :=
        r.optional? name (Operation.ofNode? limit)
      let summary ← r.optional? "summary" Node.text?
      let description ← r.optional? "description" Node.text?
      let get ← operation "get"
      let put ← operation "put"
      let post ← operation "post"
      let delete ← operation "delete"
      let options ← operation "options"
      let head ← operation "head"
      let patch ← operation "patch"
      let trace ← operation "trace"
      let parameters ← r.defaulted? "parameters" [] (Node.list? ParameterOrRef.ofNode? limit)
      return { summary, description, get, put, post, delete, options, head, patch, trace,
               parameters }

/-- Reads a security scheme. -/
def SecurityScheme.ofNode? (limit : Nat) (node : Node) : Option SecurityScheme :=
  match limit with
  | 0 => none
  | _ + 1 => do
      let r ← node.record? ["type", "description", "name", "in", "scheme", "bearerFormat",
        "openIdConnectUrl"]
      let kind ← r.required? "type" SecurityKind.ofNode?
      let description ← r.optional? "description" Node.text?
      let name ← r.optional? "name" Node.text?
      let location ← r.optional? "in" Location.ofNode?
      let scheme ← r.optional? "scheme" Node.text?
      let bearerFormat ← r.optional? "bearerFormat" Node.text?
      let openIdConnectUrl ← r.optional? "openIdConnectUrl" Node.text?
      return { kind, description, name, location, scheme, bearerFormat, openIdConnectUrl }

/-- Reads components. -/
def Components.ofNode? (limit : Nat) (node : Node) : Option Components :=
  match limit with
  | 0 => none
  | limit + 1 => do
      let r ← node.record? ["schemas", "parameters", "securitySchemes"]
      let schemas ← r.defaulted? "schemas" [] (Node.map? Schema.ofNode? limit)
      let parameters ← r.defaulted? "parameters" [] (Node.map? Parameter.ofNode? limit)
      let securitySchemes ←
        r.defaulted? "securitySchemes" [] (Node.map? SecurityScheme.ofNode? limit)
      return { schemas, parameters, securitySchemes }

/-- Reads the title and version of a document. -/
def Info.ofNode? (limit : Nat) (node : Node) : Option Info :=
  match limit with
  | 0 => none
  | _ + 1 => do
      let r ← node.record? ["title", "description", "version"]
      let title ← r.defaulted? "title" "" Node.text?
      let description ← r.optional? "description" Node.text?
      let version ← r.defaulted? "version" "" Node.text?
      return { title, description, version }

/-- Reads a server. -/
def Server.ofNode? (limit : Nat) (node : Node) : Option Server :=
  match limit with
  | 0 => none
  | _ + 1 => do
      let r ← node.record? ["url", "description"]
      let url ← r.required? "url" Node.text?
      let description ← r.optional? "description" Node.text?
      return { url, description }

/-- Reads a document. -/
def Document.ofNode? (limit : Nat) (node : Node) : Option Document :=
  match limit with
  | 0 => none
  | limit + 1 => do
      let r ← node.record? ["openapi", "info", "servers", "paths", "components", "security"]
      let version ← r.required? "openapi" Node.text?
      let info ← r.optional? "info" (Info.ofNode? limit)
      let servers ← r.defaulted? "servers" [] (Node.list? Server.ofNode? limit)
      let paths ← r.defaulted? "paths" [] (Node.map? PathItem.ofNode? limit)
      let components ← r.optional? "components" (Components.ofNode? limit)
      let security ← r.defaulted? "security" [] (Node.list? requirementOf? limit)
      return { version, info, servers, paths, components, security }

end ApiContract
