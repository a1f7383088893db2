import ApiContract.Document.Components
import ApiContract.Unicode.Uppercase

/-!
# Contract documents

A document declares paths, the operations on them and what requests to them must
bring.
-/

namespace ApiContract

/-- A parameter, or a reference to one among the components. -/
inductive ParameterOrRef where
  | reference (target : String)
  | parameter (parameter : Parameter)

/-- The schema for bodies of one media type. -/
structure MediaType where
  schema : Option Schema := none

/-- The bodies that an operation takes, by media type. -/
structure RequestBody where
  description : Option String := none
  required : Bool := false
  content : List (String × MediaType) := []

/-- Security schemes that must be satisfied together, with their scopes. -/
abbrev SecurityRequirement := List (String × List String)

/-- An operation.  Without `security` of its own it takes that of the document; an
empty list needs no credentials. -/
structure Operation where
  summary : Option String := none
  description : Option String := none
  operationId : Option String := none
  parameters : List ParameterOrRef := []
  requestBody : Option RequestBody := none
  security : Option (List SecurityRequirement) := none

/-- A name that no method has. -/
structure UnknownMethod where
  name : String
  deriving DecidableEq

/-- The text that reports the name. -/
def UnknownMethod.message (unknown : UnknownMethod) : String :=
  "Invalid method: " ++ unknown.name

/-- A method of a request. -/
inductive Method where
  | get
  | put
  | post
  | delete
  | options
  | head
  | patch
  | trace
  deriving DecidableEq, Repr

namespace Method

/-- The methods with their names. -/
def named : List (String × Method) :=
  [("GET", .get), ("PUT", .put), ("POST", .post), ("DELETE", .delete),
    ("OPTIONS", .options), ("HEAD", .head), ("PATCH", .patch), ("TRACE", .trace)]

/-- The name of a method. -/
def name : Method → String
  | .get => "GET"
  | .put => "PUT"
  | .post => "POST"
  | .delete => "DELETE"
  | .options => "OPTIONS"
  | .head => "HEAD"
  | .patch => "PATCH"
  | .trace => "TRACE"

/-- The method of a name in any case. -/
def ofName (name : String) : Except UnknownMethod Method :=
  match named.lookup (Unicode.uppercase name) with
  | some method => .ok method
  | none => .error ⟨name⟩

end Method

/-- The operations on a path, with the parameters that all of them take. -/
structure PathItem where
  summary : Option String := none
  description : Option String := none
  get : Option Operation := none
  put : Option Operation := none
  post : Option Operation := none
  delete : Option Operation := none
  options : Option Operation := none
  head : Option Operation := none
  patch : Option Operation := none
  trace : Option Operation := none
  parameters : List ParameterOrRef := []

instance : Inhabited PathItem := ⟨{}⟩

/-- The operation for a method. -/
def PathItem.operation? (item : PathItem) : Method → Option Operation
  | .get => item.get
  | .put => item.put
  | .post => item.post
  | .delete => item.delete
  | .options => item.options
  | .head => item.head
  | .patch => item.patch
  | .trace => item.trace

/-- The title and version of a document. -/
structure Info where
  title : String := ""
  description : Option String := none
  version : String := ""
  deriving DecidableEq

/-- A server of the described interface. -/
structure Server where
  url : String
  description : Option String := none
  deriving DecidableEq

/-- A contract document. -/
structure Document where
  version : String
  info : Option Info := none
  servers : List Server := []
  paths : List (String × PathItem) := []
  components : Option Components := none
  security : List SecurityRequirement := []

end ApiContract
