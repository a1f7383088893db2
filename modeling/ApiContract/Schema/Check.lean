import ApiContract.Document.Components
import ApiContract.Json.Render
import ApiContract.Json.Text
import ApiContract.Pattern.Syntax

/-!
# Checking values against schemas

`Components.accepts` tells whether a value satisfies a schema.  The rules of one
schema are `Components.step`, which leaves the schemas inside it to a given judge;
`Components.acceptsWithin` applies them to a bounded depth, and beyond it refuses.

A discriminator replaces its schema by the one that the value selects.  When the
same selection is met again on the same value, for instance because the selected
schema extends the one with the discriminator, the rules go on without
discriminator and alternatives.
-/

namespace ApiContract

/-! ## Conditions on single values -/

/-- Whether a count lies between two bounds that may be absent. -/
def isBetween (least most : Option Nat) (n : Nat) : Bool :=
  least.all (· ≤ n) && most.all (n ≤ ·)

namespace Schema

/-- Whether a text satisfies the pattern of the schema.  A pattern that cannot be read
matches nothing. -/
def acceptsPattern (schema : Schema) (text : String) : Bool :=
  match schema.pattern with
  | none => true
  | some source => (Pattern.ofText? source).any fun pattern => pattern.isMatch text

/-- Whether a text is among the values of the schema.  A value that is not a string
makes the whole list unusable for strings. -/
def acceptsMember (schema : Schema) (text : String) : Bool :=
  match schema.enum with
  | none => true
  | some values => values.all Json.isString && values.contains (.string text)

/-- Whether a value is a string that satisfies the schema. -/
def acceptsString (schema : Schema) (value : Json) : Bool :=
  match value with
  | .string text =>
      isBetween schema.minLength schema.maxLength text.length && schema.acceptsPattern text &&
        schema.acceptsMember text && schema.format.all fun format => format.accepts text
  | _ => false

/-- The number that a value is or writes, if it is finite. -/
def numberOf? (value : Json) : Option Binary64 :=
  let number := match value with
    | .number n => some n.toBinary64
    | .string text => Binary64.ofText? (Blank.trim text.toList)
    | _ => none
  number.filter Binary64.isFinite

/-- The greatest difference between a quotient and a whole number that is ignored,
for quotients up to 1. -/
def tolerance : Binary64 := .ofRat (mkRat 1 1000000000)

/-- Whether a number is a multiple of a positive divisor, up to the tolerance, which
grows with the quotient. -/
def isMultipleOf (number divisor : Binary64) : Bool :=
  if divisor.isFinite && Binary64.lt (.zero false) divisor then
    let quotient := number.div divisor
    (quotient.sub quotient.roundHalfAway).abs.le
      (tolerance.mul (quotient.abs.larger (.ofInt 1)))
  else false

/-- The greatest number that fits 32 bits of floating point. -/
def singleMax : Binary64 := .ofInt ((Nat.pow 2 24 - 1) * Nat.pow 2 104 : Nat)

/-- Whether a number lies in the range of its type and format. -/
def isInRange (schema : Schema) (number : Binary64) : Bool :=
  if schema.type = some .integer then
    if schema.format = some .int32 then
      number.isWhole && Binary64.le (.ofInt (-2147483648)) number &&
        number.le (.ofInt 2147483647)
    else
      number.isWhole && Binary64.le (.ofInt (-9223372036854775808)) number &&
        number.lt (.ofInt 9223372036854775807)
  else if schema.format = some .double then true
  else number.abs.le singleMax

/-- Whether a value is a number, or the text of one, that satisfies the schema. -/
def acceptsNumber (schema : Schema) (value : Json) : Bool :=
  match numberOf? value with
  | none => false
  | some number =>
      !(schema.minimum.any fun least => number.lt least) &&
        !(schema.maximum.any fun most => most.lt number) &&
        schema.multipleOf.all (isMultipleOf number) && schema.isInRange number

/-- Whether a value is a flag, or the text of one. -/
def acceptsBoolean (value : Json) : Bool :=
  match value with
  | .bool _ => true
  | .string text =>
      Ascii.equalIgnoringCase text "true" || Ascii.equalIgnoringCase text "false"
  | _ => false

/-- The items of a value where an array is expected: those of an array, those of an
array that a string writes, or the string itself as the only one. -/
def itemsOf? (value : Json) : Option (List Json) :=
  match value with
  | .array items => some items
  | .string text =>
      match Json.parse? text.toList with
      | some (.array items) => some items
      | _ => some [value]
  | _ => none

/-- The members of a value where an object is expected: those of an object, those of
an object that a string writes, or the string itself under the key `value`. -/
def membersOf? (value : Json) : Option (List (String × Json)) :=
  match value with
  | .object members => some members
  | .string text =>
      match Json.parse? text.toList with
      | some (.object members) => some members
      | _ => some [("value", value)]
  | _ => none

/-- Whether a text of a list occurs in it again. -/
def hasRepeatedText : List String → Bool
  | [] => false
  | text :: rest => rest.contains text || hasRepeatedText rest

/-- Whether two items of a list are written in the same way. -/
def hasRepeat (items : List Json) : Bool :=
  hasRepeatedText (items.map Json.render)

end Schema

/-! ## Conditions on values inside values -/

/-- Judges whether a value satisfies a schema.  The names are those of the components
that discriminators have selected for this very value. -/
abbrev Judge := Json → Schema → (dispatched : List String) → Bool

namespace Schema

/-- Whether a value is an array, or the text of one, that satisfies the schema. -/
def acceptsArray (judge : Judge) (schema : Schema) (value : Json) : Bool :=
  match itemsOf? value with
  | none => false
  | some items =>
      isBetween schema.minItems schema.maxItems items.length &&
        !(schema.uniqueItems && hasRepeat items) &&
        match schema.items with
        | some itemSchema => items.all fun item => judge item itemSchema []
        | none => true

/-- Whether the declared members of an object satisfy their schemas. -/
def acceptsDeclared (judge : Judge) (properties : List (String × Schema))
    (members : List (String × Json)) : Bool :=
  properties.all fun p =>
    match members.lookup p.1 with
    | some member => judge member p.2 []
    | none => true

/-- Whether the members of an object that are not declared satisfy the schema for
them.  A flag in place of that schema is not enforced. -/
def acceptsUndeclared (judge : Judge) (schema : Schema) (members : List (String × Json)) :
    Bool :=
  match schema.additionalProperties with
  | some (.matching extra) =>
      members.all fun m => (schema.properties.lookup m.1).isSome || judge m.2 extra []
  | _ => true

/-- Whether a value is an object, or the text of one, that satisfies the schema. -/
def acceptsObject (judge : Judge) (schema : Schema) (value : Json) : Bool :=
  match membersOf? value with
  | none => false
  | some members =>
      schema.required.all (fun name => (members.lookup name).isSome) &&
        acceptsDeclared judge schema.properties members &&
        schema.acceptsUndeclared judge members

/-- Whether a value satisfies the type of the schema and the conditions that go with
it.  Without a type it must be an object. -/
def acceptsType (judge : Judge) (schema : Schema) (value : Json) : Bool :=
  match schema.type with
  | some .string => schema.acceptsString value
  | some .integer | some .number => schema.acceptsNumber value
  | some .boolean => acceptsBoolean value
  | some .array => schema.acceptsArray judge value
  | some .object | none => schema.acceptsObject judge value
  | some .null => value.isNull
  | some .unknown => false

end Schema

/-! ## Selection by discriminators -/

/-- What a discriminator does to the rules of its schema. -/
inductive Dispatch where
  /-- There is none. -/
  | absent
  /-- The component of this name applies instead. -/
  | selected (name : String) (schema : Schema)
  /-- The selection has been made already. -/
  | reentered
  /-- Nothing is selected. -/
  | refused

namespace Components

/-- The component that a value selects, under its name. -/
def selected? (components : Components) (discriminator : Discriminator) (value : Json) :
    Option (String × Schema) := do
  let selector ← (← value.get? discriminator.propertyName).string?
  let target ←
    if discriminator.mapping.isEmpty then some (schemaPrefix ++ selector)
    else discriminator.mapping.lookup selector
  let schema ← components.schema? target
  return (refName target, schema)

/-- What the discriminator of a schema does for a value, after the names in
`dispatched` have been selected for it. -/
def dispatch (components : Components) (schema : Schema) (value : Json)
    (dispatched : List String) : Dispatch :=
  match schema.discriminator with
  | none => .absent
  | some discriminator =>
      match components.selected? discriminator value with
      | some (name, target) =>
          if dispatched.contains name then .reentered else .selected name target
      | none => if dispatched.isEmpty then .refused else .reentered

/-- The rules of a schema after its discriminator: reference, composition, type.  In
a re-entry the alternatives do not count. -/
def applyRules (components : Components) (judge : Judge) (value : Json) (schema : Schema)
    (dispatched : List String) (isReentry : Bool) : Bool :=
  match schema.ref with
  | some reference =>
      match components.schema? reference with
      | some target => judge value target dispatched
      | none => false
  | none =>
      match schema.allOf with
      | some members => members.all fun member => judge value member dispatched
      | none =>
          match if isReentry then none else schema.oneOf with
          | some members =>
              members.countP (fun member => judge value member dispatched) == 1
          | none =>
              match if isReentry then none else schema.anyOf with
              | some members => members.any fun member => judge value member dispatched
              | none => schema.acceptsType judge value

/-- The rules of a schema.  The judge decides about the schemas that it refers to or
holds. -/
def step (components : Components) (judge : Judge) : Judge :=
  fun value schema dispatched =>
    if value.isNull && schema.nullable then true
    else
      match components.dispatch schema value dispatched with
      | .absent => components.applyRules judge value schema dispatched false
      | .reentered => components.applyRules judge value schema dispatched true
      | .selected name target => judge value target (name :: dispatched)
      | .refused => false

/-- Whether a value satisfies a schema, judged through at most `depth` schemas inside
one another.  What lies deeper is refused. -/
def acceptsWithin (components : Components) : (depth : Nat) → Judge
  | 0 => fun _ _ _ => false
  | depth + 1 => components.step (components.acceptsWithin depth)

/-- How many steps one schema may lie below another. -/
def maxDepth : Nat := 128

/-- Whether a value satisfies a schema. -/
def accepts (components : Components) (value : Json) (schema : Schema) : Bool :=
  components.acceptsWithin (maxDepth + 1) value schema []

end Components
end ApiContract
