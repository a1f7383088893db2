import ApiContract.Contract.Judgement
import ApiContract.Proofs.Text.Lookup

/-!
# What a judgement comes to

The verdict on a request is that of the first stage that fails, and the route of the
request, if it has one, is counted once, however many stages ask for it.
-/

namespace ApiContract
namespace Hits

/-- Counting a name adds one to its count and leaves all others alone. -/
theorem of_add (hits : Hits) (name text : String) :
    (hits.add name).of text = hits.of text + if text = name then 1 else 0 := by
  by_cases h : text = name
  · simp [of, add, h]
  · have hlookup := @lookup_filter_ne _ hits.counts _ _ h
    simp only [ne_eq, decide_not] at hlookup
    simp [of, add, List.lookup_cons, beq_false_of_ne h, hlookup, h]

end Hits

namespace Contract

variable {contract : Contract} {request : Request} {operation : Operation}

section Known

variable (contract request operation) (hint : Option String) (route : Route) (hits : Hits)

theorem judgeParameters_of_known :
    contract.judgeParameters { request, hint, route, operation } hits =
      (contract.checkParameters route operation request,
        { request, hint, route, operation }, hits) := by
  rfl

theorem judgeBody_of_known :
    contract.judgeBody { request, hint, route, operation } hits =
      (contract.checkBody operation request, { request, hint, route, operation }, hits) := by
  rfl

theorem judgeSecurity_of_known :
    contract.judgeSecurity { request, hint, route, operation } hits =
      (contract.checkSecurity operation request,
        { request, hint, route, operation }, hits) := by
  rfl

end Known

/-- A judgement gives the verdict of the first stage that fails, and counts the route. -/
theorem judge_eq (contract : Contract) (request : Request) (hint : Option String)
    (hits : Hits) :
    contract.judge request hint hits = (do
      let route ← contract.findRoute request.path hint
      let operation ← findOperation route request.method
      contract.checkParameters route operation request
      contract.checkBody operation request
      contract.checkSecurity operation request,
    hits.addFound (contract.findRoute request.path hint)) := by
  cases hroute : contract.findRoute request.path hint with
  | error failure =>
      simp [judge, judgeWhole, judgePath, andThen, hroute, Hits.addFound, bind, Except.bind]
  | ok route =>
      cases hoperation : findOperation route request.method with
      | error failure =>
          simp [judge, judgeWhole, judgePath, judgeMethod, andThen, hroute, hoperation,
            Hits.addFound, bind, Except.bind]
      | ok operation =>
          -- from here on the route and the operation are known
          have hpath : contract.judgePath { request, hint } hits =
              (.ok route, { request, hint, route }, hits.add route.text) := by
            simp [judgePath, hroute]
          have hmethod (hits : Hits) : contract.judgeMethod { request, hint, route } hits =
              (.ok operation, { request, hint, route, operation }, hits) := by
            simp [judgeMethod, judgePath, hoperation]
          simp only [judge, judgeWhole, andThen, hpath, hmethod, judgeParameters_of_known,
            hoperation, Hits.addFound, bind, Except.bind]
          cases contract.checkParameters route operation request with
          | error failure => rfl
          | ok _ =>
              simp only [judgeBody_of_known]
              cases contract.checkBody operation request with
              | error failure => rfl
              | ok _ => simp only [judgeSecurity_of_known]

/-- A request is accepted if its route and operation are found and every stage accepts
it. -/
theorem judge_eq_ok_iff {hint : Option String} {hits : Hits} :
    (contract.judge request hint hits).1 = .ok () ↔
      ∃ route operation, contract.findRoute request.path hint = .ok route ∧
        findOperation route request.method = .ok operation ∧
          contract.checkParameters route operation request = .ok () ∧
            contract.checkBody operation request = .ok () ∧
              contract.checkSecurity operation request = .ok () := by
  rw [judge_eq]
  cases hroute : contract.findRoute request.path hint with
  | error failure => simp [bind, Except.bind]
  | ok route =>
      cases hoperation : findOperation route request.method with
      | error failure => simp [hoperation, bind, Except.bind]
      | ok operation =>
          cases hparameters : contract.checkParameters route operation request with
          | error failure => simp [hoperation, hparameters, bind, Except.bind]
          | ok _ =>
              cases hbody : contract.checkBody operation request with
              | error failure => simp [hoperation, hparameters, hbody, bind, Except.bind]
              | ok _ => simp [hoperation, hparameters, hbody, bind, Except.bind]

end Contract
end ApiContract
