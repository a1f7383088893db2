/-!
# Failures

Every way in which loading a contract or judging a request can fail, with the text that
reports it and the status of the answer to a request that fails so.
-/

namespace ApiContract

/-- What a text is read as. -/
inductive Reading where
  | json
  | yaml
  | utf8
  | pathTemplate
  deriving DecidableEq, Repr

/-- The name of what a text is read as. -/
def Reading.name : Reading → String
  | .json => "JSON"
  | .yaml => "YAML"
  | .utf8 => "UTF-8"
  | .pathTemplate => "path template"

/-- A way in which loading a contract or judging a request fails. -/
inductive Failure where
  | noApiSelected
  | contractNotFound (name : String)
  | malformedText (reading : Reading)
  | missingVersion (reading : Reading)
  | unreadableFile (path : String)
  | referenceCycle (name : String)
  | routeNotFound (path : String)
  | pathNotFound (route : String)
  | routeMismatch (path route : String)
  | pathCollision (path route : String)
  | methodNotAllowed (method route : String)
  | missingParameter (name : String)
  | missingCookie (name : String)
  | parameterMismatch (name : String)
  | referenceNotFound (reference : String)
  | bodyRequired
  | unsupportedContentType (contentType : String)
  | malformedBody
  | schemaMismatch
  | securityUnsatisfied
  deriving DecidableEq, Repr

namespace Failure

/-- The text that reports a failure.  `reason` tells why a text or file could not be
read. -/
def messageWith (reason : String) : Failure → String
  | .noApiSelected => "could not determine API specification"
  | .contractNotFound name => "API spec '" ++ name ++ "' not found"
  | .malformedText reading => "failed to parse OAS as " ++ reading.name ++ ": " ++ reason
  | .missingVersion reading =>
      "failed to parse OAS as " ++ reading.name ++ ": OpenAPI version is required"
  | .unreadableFile path => "failed to read OAS file '" ++ path ++ "': " ++ reason
  | .referenceCycle name => "schema reference cycle detected at '" ++ name ++ "'"
  | .routeNotFound path => "no schema found for path '" ++ path ++ "'"
  | .pathNotFound route => "path '" ++ route ++ "' doesn't exist in oas schema"
  | .routeMismatch path route =>
      "request path '" ++ path ++ "' is not matching with oas schema path '" ++ route ++ "'"
  | .pathCollision path route =>
      "request path '" ++ path ++ "' is not matching with oas schema path '" ++ route ++
        "' as there is another path with same name"
  | .methodNotAllowed method route =>
      "method '" ++ method ++ "' not allowed for path '" ++ route ++ "'"
  | .missingParameter name => "missing required parameter '" ++ name ++ "'"
  | .missingCookie name => "missing cookie parameter '" ++ name ++ "'"
  | .parameterMismatch name => "invalid type for parameter '" ++ name ++ "'"
  | .referenceNotFound reference => "reference '" ++ reference ++ "' not found"
  | .bodyRequired => "request body is required"
  | .unsupportedContentType contentType =>
      "unsupported content type '" ++ contentType ++ "'"
  | .malformedBody => "invalid request body: " ++ reason
  | .schemaMismatch => "request body does not match schema"
  | .securityUnsatisfied => "request does not satisfy any security requirements"

/-- The text that reports a failure. -/
def message (failure : Failure) : String :=
  failure.messageWith "it cannot be read"

/-- The status of the answer to a request that fails. -/
def status : Failure → Nat
  | .contractNotFound _ => 500
  | .malformedText _ => 500
  | .missingVersion _ => 500
  | .unreadableFile _ => 500
  | .referenceCycle _ => 500
  | _ => 400

end Failure
end ApiContract
