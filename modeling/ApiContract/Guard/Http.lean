import ApiContract.Guard.Basic

/-!
# Requests as they arrive

An arriving request has a target, headers as they were sent and a body that is read up
to the limit of the guard.  `Guard.receive` gives the body that is handed on when the
request satisfies its contract.
-/

namespace ApiContract

/-- A request as it arrives. -/
structure ArrivingRequest where
  method : String
  target : String
  headers : List (String × String) := []
  body : List UInt8 := []
  deriving DecidableEq

namespace ArrivingRequest

/-- The path and query of a target without fragment: those of an absolute address, whose
path is a slash if it is empty, or the target itself.  The name of a host alone has
neither. -/
def pathAndQuery (target : List Char) : List Char :=
  match target with
  | '/' :: _ | ['*'] => target
  | _ =>
      match splitAround? [':', '/', '/'] target with
      | none => []
      | some (_, address) =>
          match address.dropWhile fun c => c ≠ '/' && c ≠ '?' with
          | '/' :: rest => '/' :: rest
          | query => '/' :: query

/-- Whether every character of a header value is visible ASCII, a space or a tab. -/
def isVisible (value : String) : Bool :=
  value.toList.all fun c => (' ' ≤ c && c ≤ '~') || c = '\t'

/-- The request that is judged.  Headers with other than visible values are left out. -/
def toRequest (arriving : ArrivingRequest) : Request :=
  let target := pathAndQuery (arriving.target.toList.takeWhile (· ≠ '#'))
  let headers := arriving.headers.filter fun h => isVisible h.2
  let request := headers.foldl (fun request h => request.withHeader h.1 h.2)
    (Request.ofTarget arriving.method (String.ofList target))
  request.withBody arriving.body

end ArrivingRequest

namespace Guard

/-- Judges an arriving request: the body to hand on, or the failure to answer.  A body
above the limit is not read, and the store is left alone. -/
def receive (guard : Guard) (arriving : ArrivingRequest) (now : Instant) :
    Except Failure (List UInt8) × Guard :=
  if guard.bodyLimit < arriving.body.length then (.error .malformedBody, guard)
  else
    let (report, guard) := guard.judge arriving.toRequest none now
    (report.verdict.map fun _ => arriving.body, guard)

end Guard
end ApiContract
