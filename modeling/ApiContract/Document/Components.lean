import ApiContract.Schema.Basic
import ApiContract.Text.Split

/-!
# Components

The parts of a document that are declared once under a name and referred to from
elsewhere: schemas, parameters and security schemes.
-/

namespace ApiContract

/-- Where a parameter or a credential stands in a request. -/
inductive Location where
  | query
  | header
  | path
  | cookie
  deriving DecidableEq, Repr

namespace Location

/-- The locations with their names, in the order of their numbers. -/
def named : List (String × Location) :=
  [("query", .query), ("header", .header), ("path", .path), ("cookie", .cookie)]

/-- The name of a location. -/
def name : Location → String
  | .query => "query"
  | .header => "header"
  | .path => "path"
  | .cookie => "cookie"

end Location

/-- A parameter that a request may or must bring. -/
structure Parameter where
  name : String
  location : Location
  required : Bool := false
  description : Option String := none
  schema : Option Schema := none

/-- The kind of a security scheme.  One that is not known is never satisfied. -/
inductive SecurityKind where
  | apiKey
  | http
  | oauth2
  | openIdConnect
  | unsupported
  deriving DecidableEq, Repr

namespace SecurityKind

/-- The kinds with a name, in the order of their numbers. -/
def named : List (String × SecurityKind) :=
  [("apiKey", .apiKey), ("http", .http), ("oauth2", .oauth2),
    ("openIdConnect", .openIdConnect)]

/-- The kind of a name. -/
def ofName (name : String) : SecurityKind :=
  (named.lookup name).getD .unsupported

/-- The name of a kind. -/
def name : SecurityKind → String
  | .apiKey => "apiKey"
  | .http => "http"
  | .oauth2 => "oauth2"
  | .openIdConnect => "openIdConnect"
  | .unsupported => "Unsupported"

end SecurityKind

/-- A way to present credentials. -/
structure SecurityScheme where
  kind : SecurityKind
  description : Option String := none
  name : Option String := none
  location : Option Location := none
  scheme : Option String := none
  bearerFormat : Option String := none
  openIdConnectUrl : Option String := none
  deriving DecidableEq

/-- The named parts of a document. -/
structure Components where
  schemas : List (String × Schema) := []
  parameters : List (String × Parameter) := []
  securitySchemes : List (String × SecurityScheme) := []

instance : Inhabited Components := ⟨{}⟩

/-- The last segment of a reference. -/
def refName (reference : String) : String :=
  String.ofList (reference.toList.reverse.takeWhile (· ≠ '/')).reverse

namespace Components

/-- The name in a reference with `start` before it. -/
def nameAfter? (start reference : String) : Option String :=
  (dropStart? start.toList reference.toList).map String.ofList

/-- What stands before the name in a reference to a schema. -/
def schemaPrefix : String := "#/components/schemas/"

/-- What stands before the name in a reference to a parameter. -/
def parameterPrefix : String := "#/components/parameters/"

/-- The schema that a reference names.  The name alone is a reference too, and a name
with a slash is none. -/
def schema? (components : Components) (reference : String) : Option Schema :=
  let name := (nameAfter? schemaPrefix reference).getD reference
  if name.toList.contains '/' then none else components.schemas.lookup name

/-- The parameter that a reference names. -/
def parameter? (components : Components) (reference : String) : Option Parameter :=
  (nameAfter? parameterPrefix reference).bind fun name => components.parameters.lookup name

end Components
end ApiContract
