import ApiContract.Contract.Basic
import ApiContract.Request.Basic
import ApiContract.Schema.Check

/-!
# Parameters of a request

The parameters of an operation are those of its path followed by its own; a later one
takes the place of an earlier one with the same location and name.  Every parameter
that has a value is judged by its schema, and one that is required must have a value
that is not empty.
-/

namespace ApiContract

namespace Parameter

/-- Whether two parameters have the same location and name. -/
def isSame (a b : Parameter) : Bool :=
  a.location = b.location && a.name = b.name

/-- Puts a parameter in the place of the first one with its location and name, or at the
end. -/
def put (parameter : Parameter) : List Parameter → List Parameter
  | [] => [parameter]
  | p :: rest =>
      if p.isSame parameter then parameter :: rest else p :: put parameter rest

/-- The value of a parameter in a request. -/
def value? (parameter : Parameter) (route : Route) (request : Request) : Option String :=
  match parameter.location with
  | .query => request.queryParameter? parameter.name
  | .header => request.header? parameter.name
  | .path => route.parameter? request.path parameter.name
  | .cookie => request.cookie? parameter.name

/-- The failure when a required parameter has no value: a cookie that is absent has one
of its own. -/
def missing (parameter : Parameter) (value : Option String) : Failure :=
  if parameter.location = .cookie && value.isNone then .missingCookie parameter.name
  else .missingParameter parameter.name

/-- Judges the value of a parameter. -/
def check (parameter : Parameter) (components : Components) (value : Option String) :
    Except Failure Unit :=
  match value.filter fun text => text ≠ "" with
  | none => if parameter.required then .error (parameter.missing value) else .ok ()
  | some text =>
      if parameter.schema.all fun schema => components.accepts (.string text) schema then .ok ()
      else .error (.parameterMismatch parameter.name)

end Parameter

namespace Components

/-- The parameter that a declaration stands for. -/
def declared (components : Components) : ParameterOrRef → Except Failure Parameter
  | .parameter p => .ok p
  | .reference target =>
      match components.parameter? target with
      | some p => .ok p
      | none => .error (.referenceNotFound target)

/-- The parameters of a path and an operation on it. -/
def mergeParameters (components : Components) (pathLevel operationLevel : List ParameterOrRef) :
    Except Failure (List Parameter) :=
  (pathLevel ++ operationLevel).foldlM
    (fun merged declaration => do
      let parameter ← components.declared declaration
      return parameter.put merged)
    []

end Components

namespace Contract

/-- Judges the parameters of a request. -/
def checkParameters (contract : Contract) (route : Route) (operation : Operation)
    (request : Request) : Except Failure Unit := do
  let parameters ←
    contract.components.mergeParameters route.item.parameters operation.parameters
  parameters.forM fun parameter =>
    parameter.check contract.components (parameter.value? route request)

end Contract
end ApiContract
