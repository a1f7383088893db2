import ApiContract.Format.Basic
import ApiContract.Json.Basic

/-!
# Schemas

A schema describes JSON values.  Its keywords that hold no other schemas are kept in
`Keywords`; the schemas for members, items and alternatives are fields of `Schema`
itself.
-/

namespace ApiContract

/-- The type that a schema asks for.  A type that is not known accepts nothing. -/
inductive ValueType where
  | string
  | integer
  | number
  | boolean
  | array
  | object
  | null
  | unknown
  deriving DecidableEq, Repr

namespace ValueType

/-- The types with a name, in the order of their numbers. -/
def named : List (String × ValueType) :=
  [("string", .string), ("integer", .integer), ("number", .number), ("boolean", .boolean),
    ("array", .array), ("object", .object), ("null", .null)]

/-- The type of a name. -/
def ofName (name : String) : ValueType :=
  (named.lookup name).getD .unknown

/-- The name of a type. -/
def name : ValueType → String
  | .string => "string"
  | .integer => "integer"
  | .number => "number"
  | .boolean => "boolean"
  | .array => "array"
  | .object => "object"
  | .null => "null"
  | .unknown => "unknown"

end ValueType

/-- The member of an object whose text names the schema that applies to it.  Without
a mapping the text itself is the name. -/
structure Discriminator where
  propertyName : String
  mapping : List (String × String) := []
  deriving DecidableEq

/-- What a schema says about members that it does not declare. -/
inductive AdditionalProperties (schema : Type) where
  | allowed (value : Bool)
  | matching (schema : schema)

/-- The keywords of a schema that hold no other schemas. -/
structure Keywords where
  ref : Option String := none
  type : Option ValueType := none
  format : Option Format := none
  title : Option String := none
  description : Option String := none
  required : List String := []
  enum : Option (List Json) := none
  discriminator : Option Discriminator := none
  minimum : Option Binary64 := none
  maximum : Option Binary64 := none
  multipleOf : Option Binary64 := none
  minLength : Option Nat := none
  maxLength : Option Nat := none
  pattern : Option String := none
  minItems : Option Nat := none
  maxItems : Option Nat := none
  uniqueItems : Bool := false
  nullable : Bool := false

/-- A schema. -/
structure Schema extends Keywords where
  properties : List (String × Schema) := []
  items : Option Schema := none
  allOf : Option (List Schema) := none
  oneOf : Option (List Schema) := none
  anyOf : Option (List Schema) := none
  additionalProperties : Option (AdditionalProperties Schema) := none

instance : Inhabited Schema := ⟨{}⟩

end ApiContract
