import ApiContract.Contract.Basic
import ApiContract.Request.Basic

/-!
# Credentials of a request

One of the security requirements must be satisfied, which it is if every scheme that it
names is.  Only the presence and shape of credentials is judged.
-/

namespace ApiContract

/-- The text after `start`, if `value` begins with it in any case. -/
def dropStartIgnoringCase? (start value : String) : Option String :=
  let n := start.length
  if Ascii.equalIgnoringCase (String.ofList (value.toList.take n)) start then
    some (String.ofList (value.toList.drop n))
  else none

namespace Request

/-- The credentials that follow the name of a scheme in the authorization header. -/
def authorization? (request : Request) (start : String) : Option String :=
  (request.header? "authorization").bind fun value => dropStartIgnoringCase? start value

/-- Whether the request has a bearer token that is not blank. -/
def hasBearerToken (request : Request) : Bool :=
  (request.authorization? "Bearer ").any fun token => !(Blank.trim token.toList).isEmpty

end Request

namespace SecurityScheme

/-- What stands before the credentials of a scheme in the authorization header. -/
def authorizationStart? (scheme : String) : Option String :=
  [("basic", "Basic "), ("bearer", "Bearer "), ("digest", "Digest "),
    ("apikey", "ApiKey ")].lookup (Ascii.lowercase scheme)

/-- The key that a request carries under a name. -/
def key? (location : Option Location) (name : String) (request : Request) : Option String :=
  match location with
  | some .header => request.header? name
  | some .query => request.queryParameter? name
  | some .cookie => request.cookie? name
  | some .path | none => none

/-- Whether a request has credentials for the scheme. -/
def isSatisfied (scheme : SecurityScheme) (request : Request) : Bool :=
  match scheme.kind with
  | .apiKey =>
      scheme.name.any fun name => (key? scheme.location name request).any fun key => key ≠ ""
  | .http =>
      (scheme.scheme.bind authorizationStart?).any fun start =>
        (request.authorization? start).isSome
  | .oauth2 => request.hasBearerToken
  | .openIdConnect =>
      request.hasBearerToken ||
        (request.queryParameter? "id_token").any fun token => token ≠ ""
  | .unsupported => false

end SecurityScheme

namespace Components

/-- Whether a request satisfies every scheme of a requirement.  A scheme that is not
declared is never satisfied. -/
def satisfies (components : Components) (requirement : SecurityRequirement)
    (request : Request) : Bool :=
  requirement.all fun scheme =>
    (components.securitySchemes.lookup scheme.1).any fun declared =>
      declared.isSatisfied request

end Components

namespace Contract

/-- Judges the credentials of a request.  Without requirements none are needed. -/
def checkSecurity (contract : Contract) (operation : Operation) (request : Request) :
    Except Failure Unit :=
  let requirements := operation.security.getD contract.security
  if requirements.isEmpty ||
      requirements.any fun requirement => contract.components.satisfies requirement request then
    .ok ()
  else .error .securityUnsatisfied

end Contract
end ApiContract
