import ApiContract.Contract.Basic
import ApiContract.Request.Basic
import ApiContract.Schema.Check

/-!
# Body of a request

A body is judged by the schema that is declared for its media type: for the type itself,
or else for its range, or else for all types.  A request without body, or one that
declares a length of zero, satisfies an operation that does not require one.
-/

namespace ApiContract

namespace MediaType

/-- The type of a body that does not tell it. -/
def default : String := "application/json"

/-- The type and subtype of the value of a header, in lower case. -/
def essence (contentType : String) : String :=
  let text := Blank.trim (contentType.toList.takeWhile (· ≠ ';'))
  if text.isEmpty then default else Ascii.lowercase (String.ofList text)

/-- The range of all subtypes of a type. -/
def range? (essence : String) : Option String :=
  if essence.toList.contains '/' then
    some (String.ofList (essence.toList.takeWhile (· ≠ '/')) ++ "/*")
  else none

end MediaType

namespace RequestBody

/-- What is declared for a media type or range of this name. -/
def declared? (body : RequestBody) (name : String) : Option MediaType :=
  (body.content.find? fun entry =>
    Ascii.equalIgnoringCase (String.ofList (Blank.trim entry.1.toList)) name).map (·.2)

/-- What is declared for bodies of a media type. -/
def mediaType? (body : RequestBody) (essence : String) : Option MediaType :=
  (body.declared? essence).or
    (((MediaType.range? essence).bind body.declared?).or (body.declared? "*/*"))

end RequestBody

namespace Contract

/-- Judges the body of a request. -/
def checkBody (contract : Contract) (operation : Operation) (request : Request) :
    Except Failure Unit :=
  match operation.requestBody with
  | none => .ok ()
  | some body =>
      if request.contentLength = 0 || request.body.isEmpty then
        if body.required then .error .bodyRequired else .ok ()
      else
        let essence :=
          MediaType.essence ((request.header? "content-type").getD MediaType.default)
        match body.mediaType? essence with
        | none => .error (.unsupportedContentType essence)
        | some mediaType =>
            match mediaType.schema with
            | none => .ok ()
            | some schema =>
                match (Utf8.decode? request.body).bind Json.parse? with
                | none => .error .malformedBody
                | some value =>
                    if contract.components.accepts value schema then .ok ()
                    else .error .schemaMismatch

end Contract
end ApiContract
