import ApiContract.Contract.Body
import ApiContract.Contract.Parameters
import ApiContract.Contract.Security
import ApiContract.Route.Hits

/-!
# Judging requests

A request is judged in stages: path, method, parameters, body, credentials.  The route
and operation are found once and remembered for later stages, and the route is counted
when it is found.
-/

namespace ApiContract

/-- What is known while a request is judged. -/
structure Inquiry where
  request : Request
  /-- The route that was chosen before, if there is one. -/
  hint : Option String := none
  route : Option Route := none
  operation : Option Operation := none

/-- A stage of judging a request. -/
inductive Stage where
  | path
  | method
  | parameters
  | body
  | security
  /-- All stages in turn. -/
  | whole
  deriving DecidableEq, Repr

/-- What a stage finds. -/
inductive Finding where
  | route (found : Route)
  | operation (found : Operation)
  | nothing

/-- The outcome of a stage with what is known after it and the counted routes. -/
abbrev Judgement (α : Type) := Except Failure α × Inquiry × Hits

namespace Contract

/-- The route for the path of a request: the one that was chosen before, if it fits. -/
def findRoute (contract : Contract) (path : String) (hint : Option String) :
    Except Failure Route :=
  match hint with
  | some text => contract.router.verify path text
  | none => contract.router.resolve path

/-- The operation of a route for a method. -/
def findOperation (route : Route) (method : String) : Except Failure Operation :=
  match (Method.ofName method).toOption.bind route.item.operation? with
  | some operation => .ok operation
  | none => .error (.methodNotAllowed method route.text)

/-- Finds the route, unless it is known. -/
def judgePath (contract : Contract) (inquiry : Inquiry) (hits : Hits) : Judgement Route :=
  match inquiry.route with
  | some route => (.ok route, inquiry, hits)
  | none =>
      match contract.findRoute inquiry.request.path inquiry.hint with
      | .error failure => (.error failure, inquiry, hits)
      | .ok route => (.ok route, { inquiry with route := some route }, hits.add route.text)

/-- Finds the operation, unless it is known. -/
def judgeMethod (contract : Contract) (inquiry : Inquiry) (hits : Hits) :
    Judgement Operation :=
  match inquiry.operation with
  | some operation => (.ok operation, inquiry, hits)
  | none =>
      match contract.judgePath inquiry hits with
      | (.error failure, inquiry, hits) => (.error failure, inquiry, hits)
      | (.ok route, inquiry, hits) =>
          match findOperation route inquiry.request.method with
          | .error failure => (.error failure, inquiry, hits)
          | .ok operation =>
              (.ok operation, { inquiry with operation := some operation }, hits)

/-- Judges the parameters. -/
def judgeParameters (contract : Contract) (inquiry : Inquiry) (hits : Hits) :
    Judgement Unit :=
  match contract.judgeMethod inquiry hits with
  | (.error failure, inquiry, hits) => (.error failure, inquiry, hits)
  | (.ok operation, inquiry, hits) =>
      match contract.judgePath inquiry hits with
      | (.error failure, inquiry, hits) => (.error failure, inquiry, hits)
      | (.ok route, inquiry, hits) =>
          (contract.checkParameters route operation inquiry.request, inquiry, hits)

/-- Judges the body. -/
def judgeBody (contract : Contract) (inquiry : Inquiry) (hits : Hits) : Judgement Unit :=
  match contract.judgeMethod inquiry hits with
  | (.error failure, inquiry, hits) => (.error failure, inquiry, hits)
  | (.ok operation, inquiry, hits) =>
      (contract.checkBody operation inquiry.request, inquiry, hits)

/-- Judges the credentials. -/
def judgeSecurity (contract : Contract) (inquiry : Inquiry) (hits : Hits) :
    Judgement Unit :=
  match contract.judgeMethod inquiry hits with
  | (.error failure, inquiry, hits) => (.error failure, inquiry, hits)
  | (.ok operation, inquiry, hits) =>
      (contract.checkSecurity operation inquiry.request, inquiry, hits)

/-- Goes on with the next stage, if there was no failure. -/
def andThen {α β : Type} (judgement : Judgement α)
    (next : Inquiry → Hits → Judgement β) : Judgement β :=
  match judgement with
  | (.error failure, inquiry, hits) => (.error failure, inquiry, hits)
  | (.ok _, inquiry, hits) => next inquiry hits

/-- Runs all stages up to the first failure. -/
def judgeWhole (contract : Contract) (inquiry : Inquiry) (hits : Hits) : Judgement Unit :=
  andThen (contract.judgePath inquiry hits) fun inquiry hits =>
    andThen (contract.judgeMethod inquiry hits) fun inquiry hits =>
      andThen (contract.judgeParameters inquiry hits) fun inquiry hits =>
        andThen (contract.judgeBody inquiry hits) fun inquiry hits =>
          contract.judgeSecurity inquiry hits

/-- The judgement with what its stage finds. -/
def finding {α : Type} (write : α → Finding) (judgement : Judgement α) : Judgement Finding :=
  (judgement.1.map write, judgement.2)

/-- Runs a stage. -/
def runStage (contract : Contract) (inquiry : Inquiry) (hits : Hits) :
    Stage → Judgement Finding
  | .path => finding .route (contract.judgePath inquiry hits)
  | .method => finding .operation (contract.judgeMethod inquiry hits)
  | .parameters => finding (fun _ => .nothing) (contract.judgeParameters inquiry hits)
  | .body => finding (fun _ => .nothing) (contract.judgeBody inquiry hits)
  | .security => finding (fun _ => .nothing) (contract.judgeSecurity inquiry hits)
  | .whole => finding (fun _ => .nothing) (contract.judgeWhole inquiry hits)

/-- Judges a request, with a route that was chosen before if there is one. -/
def judge (contract : Contract) (request : Request) (hint : Option String) (hits : Hits) :
    Except Failure Unit × Hits :=
  let (result, _, hits) := contract.judgeWhole { request, hint } hits
  (result, hits)

end Contract
end ApiContract
