import ApiContract.Proofs.Contract.Judgement
import Mathlib.Logic.Basic

/-!
# Accepted bodies

A request that is accepted went through all stages, and the stage of the body accepts
what the schema of its media type accepts.  There is one exception: a request that
declares a length of zero counts as one without body, whatever follows its head.
-/

namespace ApiContract

/-! ## The stage of the body -/

/-- The media type of a body as the head of the request tells it. -/
def Request.bodyEssence (request : Request) : String :=
  MediaType.essence ((request.header? "content-type").getD MediaType.default)

/-- The head of a request declares that there is no body. -/
def Request.DeclaresEmpty (request : Request) : Prop :=
  ((request.header? "content-length").bind fun value =>
    Request.size? (Blank.trim value.toList)) = some 0

/-- A body that is not empty has no length only if the request says so. -/
theorem Request.contentLength_eq_zero_iff {request : Request} (hbody : request.body ≠ []) :
    request.contentLength = 0 ↔ request.DeclaresEmpty := by
  rw [contentLength, DeclaresEmpty]
  cases (request.header? "content-length").bind fun value =>
      Request.size? (Blank.trim value.toList) with
  | none => simpa using hbody
  | some declared => simp

namespace Contract

variable {contract : Contract} {request : Request} {operation : Operation}
  {body : RequestBody}

/-- Something is declared for the media type of the body, and the schema in it, if there
is one, accepts the value that the body writes. -/
def ChecksBody (contract : Contract) (body : RequestBody) (request : Request) : Prop :=
  ∃ mediaType, body.mediaType? request.bodyEssence = some mediaType ∧
    ∀ schema, mediaType.schema = some schema →
      ∃ value, (Utf8.decode? request.body).bind Json.parse? = some value ∧
        contract.components.accepts value schema = true

theorem checksBody_iff {mediaType : MediaType}
    (hmedia : body.mediaType? request.bodyEssence = some mediaType) :
    contract.ChecksBody body request ↔
      ∀ schema, mediaType.schema = some schema →
        ∃ value, (Utf8.decode? request.body).bind Json.parse? = some value ∧
          contract.components.accepts value schema = true := by
  simp [ChecksBody, hmedia]

/-- The stage accepts a body without length if none is required, and any other one if it
is checked. -/
theorem checkBody_eq_ok_iff (hdeclared : operation.requestBody = some body) :
    contract.checkBody operation request = .ok () ↔
      (request.contentLength = 0 ∨ request.body = []) ∧ body.required = false ∨
        ¬(request.contentLength = 0 ∨ request.body = []) ∧
          contract.ChecksBody body request := by
  have hempty : (decide (request.contentLength = 0) || request.body.isEmpty) = true ↔
      request.contentLength = 0 ∨ request.body = [] := by
    simp
  by_cases hlength : request.contentLength = 0 ∨ request.body = []
  · simp only [hlength, true_and, not_true_eq_false, false_and, or_false]
    cases hrequired : body.required <;>
      simp [checkBody, hdeclared, hempty.mpr hlength, hrequired]
  · simp only [hlength, false_and, not_false_eq_true, true_and, false_or]
    have hfull := Bool.not_eq_true _ ▸ mt hempty.mp hlength
    cases hmedia : body.mediaType? request.bodyEssence with
    | none =>
        have hundeclared : ¬contract.ChecksBody body request := by simp [ChecksBody, hmedia]
        rw [Request.bodyEssence] at hmedia
        simp [checkBody, hdeclared, hfull, hmedia, hundeclared]
    | some mediaType =>
        rw [checksBody_iff hmedia]
        rw [Request.bodyEssence] at hmedia
        cases hschema : mediaType.schema with
        | none => simp [checkBody, hdeclared, hfull, hmedia, hschema]
        | some schema =>
            cases hvalue : (Utf8.decode? request.body).bind Json.parse? with
            | none => simp [checkBody, hdeclared, hfull, hmedia, hschema, hvalue]
            | some value =>
                by_cases haccepts : contract.components.accepts value schema = true
                · simp [checkBody, hdeclared, hfull, hmedia, hschema, hvalue, haccepts]
                · simp [checkBody, hdeclared, hfull, hmedia, hschema, hvalue, haccepts]

/-! ## Bodies of accepted requests -/

/-- What is declared of bodies by the operation that a request resolves to. -/
def requestBody? (contract : Contract) (request : Request) (hint : Option String) :
    Option RequestBody :=
  (contract.findRoute request.path hint).toOption.bind fun route =>
    (findOperation route request.method).toOption.bind (·.requestBody)

/-- All stages accept a request but for that of the body. -/
def AcceptsHead (contract : Contract) (request : Request) (hint : Option String) : Prop :=
  ∃ route operation, contract.findRoute request.path hint = .ok route ∧
    findOperation route request.method = .ok operation ∧
      contract.checkParameters route operation request = .ok () ∧
        contract.checkSecurity operation request = .ok ()

/-- A request is accepted when its body consists of these bytes. -/
def AcceptsBody (contract : Contract) (request : Request) (hint : Option String)
    (hits : Hits) (bytes : List UInt8) : Prop :=
  (contract.judge (request.withBody bytes) hint hits).1 = .ok ()

theorem requestBody?_eq {hint : Option String} {route : Route}
    (hroute : contract.findRoute request.path hint = .ok route)
    (hoperation : findOperation route request.method = .ok operation) :
    contract.requestBody? request hint = operation.requestBody := by
  simp [requestBody?, hroute, hoperation, Except.toOption]

/-- Bytes after a head that is accepted are accepted if they are checked, or, where the
head declares that there are none, if none are required. -/
theorem acceptsBody_iff {hint : Option String} {hits : Hits} {bytes : List UInt8}
    (hdeclared : contract.requestBody? request hint = some body) (hbytes : bytes ≠ []) :
    contract.AcceptsBody request hint hits bytes ↔
      contract.AcceptsHead request hint ∧
        (request.DeclaresEmpty ∧ body.required = false ∨
          ¬request.DeclaresEmpty ∧ contract.ChecksBody body (request.withBody bytes)) := by
  have hlength : (request.withBody bytes).contentLength = 0 ↔ request.DeclaresEmpty :=
    Request.contentLength_eq_zero_iff hbytes
  have hstage {operation : Operation} (hrequest : operation.requestBody = some body) :
      contract.checkBody operation (request.withBody bytes) = .ok () ↔
        request.DeclaresEmpty ∧ body.required = false ∨
          ¬request.DeclaresEmpty ∧ contract.ChecksBody body (request.withBody bytes) := by
    have hfull : (request.withBody bytes).body ≠ [] := hbytes
    rw [checkBody_eq_ok_iff hrequest, hlength]
    simp only [hfull, or_false]
  rw [AcceptsBody, judge_eq_ok_iff]
  -- only the stage of the body looks at the bytes
  constructor
  · rintro ⟨route, operation, hroute, hoperation, hparameters, hbody, hsecurity⟩
    have hrequest := (requestBody?_eq hroute hoperation).symm.trans hdeclared
    exact ⟨⟨route, operation, hroute, hoperation, hparameters, hsecurity⟩,
      (hstage hrequest).mp hbody⟩
  · rintro ⟨⟨route, operation, hroute, hoperation, hparameters, hsecurity⟩, hbody⟩
    have hrequest := (requestBody?_eq hroute hoperation).symm.trans hdeclared
    exact ⟨route, operation, hroute, hoperation, hparameters, (hstage hrequest).mpr hbody,
      hsecurity⟩

/-- Bytes of an accepted request are checked unless its head declares that there are
none, and none are required. -/
theorem checksBody_of_accepted {hint : Option String} {hits : Hits} {bytes : List UInt8}
    (hdeclared : contract.requestBody? request hint = some body) (hbytes : bytes ≠ [])
    (haccepted : contract.AcceptsBody request hint hits bytes) :
    request.DeclaresEmpty ∧ body.required = false ∨
      contract.ChecksBody body (request.withBody bytes) := by
  obtain ⟨-, hunread | ⟨-, hchecks⟩⟩ := (acceptsBody_iff hdeclared hbytes).mp haccepted
  · exact Or.inl hunread
  · exact Or.inr hchecks

end Contract
end ApiContract
