import ApiContract.Proofs.Contract.ChosenRoute

/-!
# Stages in any order

The stages of a judgement may be run one by one, in any order and repeatedly, and they
remember the route and the operation that they find.  `Contract.Recalls` is the invariant:
what is remembered is what would be found anew, and the route is counted exactly if it is
remembered.  So every stage answers as it does at first, and a run counts the route of the
request once.
-/

namespace ApiContract

/-- The stages in the order in which a request goes through them. -/
def Stage.inOrder : List Stage :=
  [.path, .method, .parameters, .body, .security]

namespace Contract

variable {contract : Contract} {request : Request} {hint : Option String} {start hits : Hits}
  {inquiry : Inquiry} {α β : Type}

/-- Runs stages one after the other, each with what the earlier ones found. -/
def runStages (contract : Contract) (inquiry : Inquiry) (hits : Hits) :
    List Stage → List (Except Failure Finding) × Inquiry × Hits
  | [] => ([], inquiry, hits)
  | stage :: rest =>
      let (finding, inquiry, hits) := contract.runStage inquiry hits stage
      let (findings, inquiry, hits) := contract.runStages inquiry hits rest
      (finding :: findings, inquiry, hits)

/-- What a stage finds when nothing is known of the request yet. -/
def atFirst (contract : Contract) (request : Request) (hint : Option String) (hits : Hits)
    (stage : Stage) : Except Failure Finding :=
  (contract.runStage { request, hint } hits stage).1

/-! ## What is remembered -/

/-- What may be known of a request, and the counts that go with it after they were
`start`. -/
inductive Recalls (contract : Contract) (request : Request) (hint : Option String)
    (start : Hits) : Inquiry → Hits → Prop where
  | nothing : Recalls contract request hint start { request, hint } start
  | route {route : Route} (hroute : contract.findRoute request.path hint = .ok route) :
      Recalls contract request hint start { request, hint, route } (start.add route.text)
  | operation {route : Route} {operation : Operation}
      (hroute : contract.findRoute request.path hint = .ok route)
      (hoperation : findOperation route request.method = .ok operation) :
      Recalls contract request hint start { request, hint, route, operation }
        (start.add route.text)

/-- A judgement gives a result and leaves the route remembered, if there is one. -/
structure ComesTo (contract : Contract) (request : Request) (hint : Option String)
    (start : Hits) (judgement : Judgement α) (result : Except Failure α) : Prop where
  result_eq : judgement.1 = result
  recalls : contract.Recalls request hint start judgement.2.1 judgement.2.2
  route_eq : judgement.2.1.route = (contract.findRoute request.path hint).toOption

namespace Recalls

theorem request_eq (h : contract.Recalls request hint start inquiry hits) :
    inquiry.request = request := by
  cases h <;> rfl

/-- Once the route is looked for, it is counted if it was found. -/
theorem hits_eq (h : contract.Recalls request hint start inquiry hits)
    (hroute : inquiry.route = (contract.findRoute request.path hint).toOption) :
    hits = start.addFound (contract.findRoute request.path hint) := by
  cases h with
  | nothing =>
      cases hfound : contract.findRoute request.path hint with
      | error failure => rfl
      | ok route => simp [hfound, Except.toOption] at hroute
  | route hfound => rw [hfound, Hits.addFound]
  | operation hfound _ => rw [hfound, Hits.addFound]

end Recalls

/-! ## Stages without memory -/

section Anew

variable (contract request hint)

/-- The operation of a request. -/
def operationOf : Except Failure Operation := do
  let route ← contract.findRoute request.path hint
  findOperation route request.method

/-- The verdict on the parameters of a request. -/
def parametersOf : Except Failure Unit := do
  let operation ← contract.operationOf request hint
  let route ← contract.findRoute request.path hint
  contract.checkParameters route operation request

/-- The verdict on the body of a request. -/
def bodyOf : Except Failure Unit := do
  let operation ← contract.operationOf request hint
  contract.checkBody operation request

/-- The verdict on the credentials of a request. -/
def securityOf : Except Failure Unit := do
  let operation ← contract.operationOf request hint
  contract.checkSecurity operation request

/-- The verdict on a request: that of the first stage that fails. -/
def verdictOf : Except Failure Unit := do
  let _ ← contract.findRoute request.path hint
  let _ ← contract.operationOf request hint
  contract.parametersOf request hint
  contract.bodyOf request hint
  contract.securityOf request hint

/-- What a stage finds. -/
def findingOf : Stage → Except Failure Finding
  | .path => (contract.findRoute request.path hint).map .route
  | .method => (contract.operationOf request hint).map .operation
  | .parameters => (contract.parametersOf request hint).map fun _ => .nothing
  | .body => (contract.bodyOf request hint).map fun _ => .nothing
  | .security => (contract.securityOf request hint).map fun _ => .nothing
  | .whole => (contract.verdictOf request hint).map fun _ => .nothing

end Anew

/-! ## One stage -/

/-- Goes on with what a stage finds, if there was no failure. -/
def follow (judgement : Judgement α) (next : α → Inquiry → Hits → Judgement β) :
    Judgement β :=
  match judgement with
  | (.error failure, inquiry, hits) => (.error failure, inquiry, hits)
  | (.ok found, inquiry, hits) => next found inquiry hits

theorem judgeMethod_eq_follow (inquiry : Inquiry) (hits : Hits)
    (hunknown : inquiry.operation = none) :
    contract.judgeMethod inquiry hits =
      follow (contract.judgePath inquiry hits) fun route inquiry hits =>
        match findOperation route inquiry.request.method with
        | .error failure => (.error failure, inquiry, hits)
        | .ok operation =>
            (.ok operation, { inquiry with operation := some operation }, hits) := by
  rw [judgeMethod, hunknown]
  obtain ⟨_ | route, inquiry, hits⟩ := contract.judgePath inquiry hits <;> rfl

theorem judgeParameters_eq_follow (inquiry : Inquiry) (hits : Hits) :
    contract.judgeParameters inquiry hits =
      follow (contract.judgeMethod inquiry hits) fun operation inquiry hits =>
        follow (contract.judgePath inquiry hits) fun route inquiry hits =>
          (contract.checkParameters route operation inquiry.request, inquiry, hits) := by
  rw [judgeParameters]
  obtain ⟨_ | operation, inquiry, hits⟩ := contract.judgeMethod inquiry hits
  · rfl
  · simp only [follow]
    obtain ⟨_ | route, inquiry, hits⟩ := contract.judgePath inquiry hits <;> rfl

theorem judgeBody_eq_follow (inquiry : Inquiry) (hits : Hits) :
    contract.judgeBody inquiry hits =
      follow (contract.judgeMethod inquiry hits) fun operation inquiry hits =>
        (contract.checkBody operation inquiry.request, inquiry, hits) := by
  rw [judgeBody]
  obtain ⟨_ | operation, inquiry, hits⟩ := contract.judgeMethod inquiry hits <;> rfl

theorem judgeSecurity_eq_follow (inquiry : Inquiry) (hits : Hits) :
    contract.judgeSecurity inquiry hits =
      follow (contract.judgeMethod inquiry hits) fun operation inquiry hits =>
        (contract.checkSecurity operation inquiry.request, inquiry, hits) := by
  rw [judgeSecurity]
  obtain ⟨_ | operation, inquiry, hits⟩ := contract.judgeMethod inquiry hits <;> rfl

theorem andThen_eq_follow (judgement : Judgement α) (next : Inquiry → Hits → Judgement β) :
    andThen judgement next = follow judgement fun _ => next := by
  obtain ⟨_ | found, inquiry, hits⟩ := judgement <;> rfl

theorem ComesTo.follow {judgement : Judgement α} {result : Except Failure α}
    {next : α → Inquiry → Hits → Judgement β} {after : α → Except Failure β}
    (h : contract.ComesTo request hint start judgement result)
    (hnext : ∀ found inquiry hits, result = .ok found →
      contract.Recalls request hint start inquiry hits →
        inquiry.route = (contract.findRoute request.path hint).toOption →
          contract.ComesTo request hint start (next found inquiry hits) (after found)) :
    contract.ComesTo request hint start (follow judgement next) (result >>= after) := by
  obtain ⟨answer, inquiry, hits⟩ := judgement
  obtain ⟨rfl, hrecalls, hroute⟩ := h
  cases answer with
  | error failure => exact ⟨rfl, hrecalls, hroute⟩
  | ok found => exact hnext found inquiry hits rfl hrecalls hroute

namespace Recalls

theorem judgePath (h : contract.Recalls request hint start inquiry hits) :
    contract.ComesTo request hint start (contract.judgePath inquiry hits)
      (contract.findRoute request.path hint) := by
  cases h with
  | nothing =>
      cases hroute : contract.findRoute request.path hint with
      | error failure =>
          have hjudged : contract.judgePath { request, hint } start =
              (.error failure, { request, hint }, start) := by
            simp [Contract.judgePath, hroute]
          rw [hjudged]
          exact ⟨rfl, .nothing, by rw [hroute]; rfl⟩
      | ok route =>
          have hjudged : contract.judgePath { request, hint } start =
              (.ok route, { request, hint, route }, start.add route.text) := by
            simp [Contract.judgePath, hroute]
          rw [hjudged]
          exact ⟨rfl, .route hroute, by rw [hroute]; rfl⟩
  | route hroute => exact ⟨hroute.symm, .route hroute, by rw [hroute]; rfl⟩
  | operation hroute hoperation =>
      exact ⟨hroute.symm, .operation hroute hoperation, by rw [hroute]; rfl⟩

/-- The operation is remembered beside the route that it belongs to. -/
theorem remember {route : Route} {operation : Operation}
    (h : contract.Recalls request hint start inquiry hits)
    (hknown : inquiry.route = some route)
    (hoperation : findOperation route request.method = .ok operation) :
    contract.Recalls request hint start { inquiry with operation := some operation } hits := by
  cases h with
  | nothing => cases hknown
  | route hroute =>
      obtain rfl := Option.some.inj hknown
      exact .operation hroute hoperation
  | operation hroute _ =>
      obtain rfl := Option.some.inj hknown
      exact .operation hroute hoperation

theorem judgeMethod (h : contract.Recalls request hint start inquiry hits) :
    contract.ComesTo request hint start (contract.judgeMethod inquiry hits)
      (contract.operationOf request hint) := by
  cases hknown : inquiry.operation with
  | some operation =>
      have hjudged : contract.judgeMethod inquiry hits = (.ok operation, inquiry, hits) := by
        simp [Contract.judgeMethod, hknown]
      rw [hjudged]
      cases h with
      | nothing => cases hknown
      | route _ => cases hknown
      | operation hroute hoperation =>
          obtain rfl := Option.some.inj hknown
          refine ⟨?_, .operation hroute hoperation, by rw [hroute]; rfl⟩
          rw [operationOf, hroute]
          exact hoperation.symm
  | none =>
      rw [judgeMethod_eq_follow inquiry hits hknown]
      apply h.judgePath.follow
      intro route inquiry hits hroute hrecalls hremembered
      have hmethod : findOperation route inquiry.request.method =
          findOperation route request.method := by
        rw [hrecalls.request_eq]
      rw [hmethod]
      cases hoperation : findOperation route request.method with
      | error failure => exact ⟨rfl, hrecalls, hremembered⟩
      | ok operation =>
          have hknown : inquiry.route = some route := by rw [hremembered, hroute]; rfl
          exact ⟨rfl, hrecalls.remember hknown hoperation, hremembered⟩

theorem judgeParameters (h : contract.Recalls request hint start inquiry hits) :
    contract.ComesTo request hint start (contract.judgeParameters inquiry hits)
      (contract.parametersOf request hint) := by
  rw [judgeParameters_eq_follow]
  apply h.judgeMethod.follow
  intro operation inquiry hits _ hrecalls _
  apply hrecalls.judgePath.follow
  intro route inquiry hits _ hrecalls hremembered
  exact ⟨by rw [hrecalls.request_eq], hrecalls, hremembered⟩

theorem judgeBody (h : contract.Recalls request hint start inquiry hits) :
    contract.ComesTo request hint start (contract.judgeBody inquiry hits)
      (contract.bodyOf request hint) := by
  rw [judgeBody_eq_follow]
  apply h.judgeMethod.follow
  intro operation inquiry hits _ hrecalls hremembered
  exact ⟨by rw [hrecalls.request_eq], hrecalls, hremembered⟩

theorem judgeSecurity (h : contract.Recalls request hint start inquiry hits) :
    contract.ComesTo request hint start (contract.judgeSecurity inquiry hits)
      (contract.securityOf request hint) := by
  rw [judgeSecurity_eq_follow]
  apply h.judgeMethod.follow
  intro operation inquiry hits _ hrecalls hremembered
  exact ⟨by rw [hrecalls.request_eq], hrecalls, hremembered⟩

theorem judgeWhole (h : contract.Recalls request hint start inquiry hits) :
    contract.ComesTo request hint start (contract.judgeWhole inquiry hits)
      (contract.verdictOf request hint) := by
  simp only [Contract.judgeWhole, andThen_eq_follow]
  apply h.judgePath.follow
  intro _ inquiry hits _ hrecalls _
  apply hrecalls.judgeMethod.follow
  intro _ inquiry hits _ hrecalls _
  apply hrecalls.judgeParameters.follow
  intro _ inquiry hits _ hrecalls _
  apply hrecalls.judgeBody.follow
  intro _ inquiry hits _ hrecalls _
  exact hrecalls.judgeSecurity

end Recalls

theorem ComesTo.finding {judgement : Judgement α} {result : Except Failure α}
    (h : contract.ComesTo request hint start judgement result) (write : α → Finding) :
    contract.ComesTo request hint start (finding write judgement) (result.map write) :=
  ⟨congrArg (Except.map write) h.result_eq, h.recalls, h.route_eq⟩

/-- Whatever was found before, a stage finds what it would find anew. -/
theorem Recalls.runStage (h : contract.Recalls request hint start inquiry hits)
    (stage : Stage) :
    contract.ComesTo request hint start (contract.runStage inquiry hits stage)
      (contract.findingOf request hint stage) := by
  cases stage with
  | path => exact h.judgePath.finding _
  | method => exact h.judgeMethod.finding _
  | parameters => exact h.judgeParameters.finding _
  | body => exact h.judgeBody.finding _
  | security => exact h.judgeSecurity.finding _
  | whole => exact h.judgeWhole.finding _

theorem atFirst_eq (contract : Contract) (request : Request) (hint : Option String)
    (hits : Hits) (stage : Stage) :
    contract.atFirst request hint hits stage = contract.findingOf request hint stage :=
  (Recalls.nothing.runStage stage).result_eq

/-! ## The first failure -/

/-- The failure of a stage, if it fails. -/
def failure? : Except Failure α → Option Failure
  | .error failure => some failure
  | .ok _ => none

/-- The whole finds the failure of the first stage that fails. -/
theorem findingOf_whole_eq (contract : Contract) (request : Request) (hint : Option String) :
    contract.findingOf request hint .whole =
      match Stage.inOrder.findSome? fun stage =>
          failure? (contract.findingOf request hint stage) with
      | some failure => .error failure
      | none => .ok .nothing := by
  simp only [Stage.inOrder, List.findSome?, findingOf, verdictOf]
  cases contract.findRoute request.path hint with
  | error failure => rfl
  | ok route =>
      cases contract.operationOf request hint with
      | error failure => rfl
      | ok operation =>
          cases contract.parametersOf request hint with
          | error failure => rfl
          | ok _ =>
              cases contract.bodyOf request hint with
              | error failure => rfl
              | ok _ => cases contract.securityOf request hint <;> rfl

/-! ## Runs of stages -/

/-- The invariant of a run: findings are those that would be made anew, and a route that
was looked for stays remembered. -/
theorem Recalls.runStages (h : contract.Recalls request hint start inquiry hits)
    (stages : List Stage) :
    let run := contract.runStages inquiry hits stages
    run.1 = stages.map (contract.findingOf request hint) ∧
      contract.Recalls request hint start run.2.1 run.2.2 ∧
        (inquiry.route = (contract.findRoute request.path hint).toOption →
          run.2.1.route = (contract.findRoute request.path hint).toOption) := by
  induction stages generalizing inquiry hits with
  | nil => exact ⟨rfl, h, id⟩
  | cons stage rest ih =>
      have hstage := h.runStage stage
      obtain ⟨hfindings, hrecalls, hroute⟩ := ih hstage.recalls
      refine ⟨?_, hrecalls, fun _ => hroute hstage.route_eq⟩
      rw [List.map_cons, ← hstage.result_eq, ← hfindings]
      rfl

/-- A run of stages counts the route of the request once, or nothing if there is none. -/
theorem hits_runStages (contract : Contract) (request : Request) (hint : Option String)
    (hits : Hits) (first : Stage) (rest : List Stage) :
    (contract.runStages { request, hint } hits (first :: rest)).2.2 =
      hits.addFound (contract.findRoute request.path hint) := by
  have hfirst : contract.ComesTo request hint hits
      (contract.runStage { request, hint } hits first)
      (contract.findingOf request hint first) := Recalls.nothing.runStage first
  obtain ⟨-, hrecalls, hroute⟩ := hfirst.recalls.runStages rest
  exact hrecalls.hits_eq (hroute hfirst.route_eq)

theorem mem_routes_of_findRoute {paths : List (String × PathItem)} {path : String}
    {route : Route} (hkeys : (paths.map (·.1)).Nodup)
    (hrouter : Router.ofPaths paths = .ok contract.router)
    (hroute : contract.findRoute path hint = .ok route) :
    route ∈ contract.router.routes := by
  have hordered := Router.isOrdered_of_ofPaths hkeys hrouter
  cases hint with
  | some text => exact (hordered.verify_eq_ok_iff.mp hroute).1
  | none =>
      cases hordered.resolve_eq_iff.mp hroute with
      | spelled hmem _ => exact hmem
      | template _ hmem _ _ => exact hmem

/-- However stages follow one another, each finds what it finds at first, and the whole
finds the first failure of the stages in order.  Together they count exactly one route,
the one that the path or the chosen route leads to, and exactly once; if there is none,
they count nothing. -/
theorem stages_transparent {paths : List (String × PathItem)}
    (hkeys : (paths.map (·.1)).Nodup)
    (hrouter : Router.ofPaths paths = .ok contract.router) (request : Request)
    (hint : Option String) (hits : Hits) (first : Stage) (rest : List Stage) :
    let run := contract.runStages { request, hint } hits (first :: rest)
    (∀ others, run.1 = (first :: rest).map (contract.atFirst request hint others)) ∧
      (∀ others, contract.atFirst request hint others .whole =
        match Stage.inOrder.findSome? fun stage =>
            failure? (contract.atFirst request hint others stage) with
        | some failure => .error failure
        | none => .ok .nothing) ∧
      (∀ route, contract.findRoute request.path hint = .ok route →
        route ∈ contract.router.routes ∧
          ∀ other ∈ contract.router.routes, run.2.2.of other.text =
            hits.of other.text + if other.text = route.text then 1 else 0) ∧
      ∀ failure, contract.findRoute request.path hint = .error failure → run.2.2 = hits := by
  intro run
  have hcounted : run.2.2 = hits.addFound (contract.findRoute request.path hint) :=
    contract.hits_runStages request hint hits first rest
  refine ⟨?_, ?_, ?_, ?_⟩
  · intro others
    have hnothing : contract.Recalls request hint hits { request, hint } hits := .nothing
    obtain ⟨hfindings, -⟩ := hnothing.runStages (first :: rest)
    have hatFirst : contract.atFirst request hint others = contract.findingOf request hint :=
      funext (contract.atFirst_eq request hint others)
    rw [hatFirst]
    exact hfindings
  · intro others
    simp only [atFirst_eq]
    exact contract.findingOf_whole_eq request hint
  · intro route hroute
    refine ⟨mem_routes_of_findRoute hkeys hrouter hroute, ?_⟩
    intro other _
    rw [hcounted, hroute]
    exact Hits.of_add hits route.text other.text
  · intro failure hfailure
    rw [hcounted, hfailure, Hits.addFound]

/-! ### Stages that fail and stages that do not -/

/-- The path of a pet is found and its method is refused, before and after; and where the
chosen route does not exist, nothing is counted. -/
theorem stages_transparent_petRequest :
    (Router.petPaths.map (·.1)).Nodup ∧ ∃ router run,
      Router.ofPaths Router.petPaths = .ok router ∧
        run = (Router.bareContract router).runStages { request := Router.petRequest } {}
          [.method, .path, .whole] ∧
        run.1 = [.error (.methodNotAllowed "GET" "/pets/{id}"), .ok (.route Router.petRoute),
          .error (.methodNotAllowed "GET" "/pets/{id}")] ∧
        run.2.2.of "/pets/{id}" = 1 ∧ run.2.2.of "/{kind}/mine" = 0 ∧
        ((Router.bareContract router).runStages
          { request := Router.petRequest, hint := some "/dogs" } {} [.body, .path]).2.2 = {} := by
  have hkeys : (Router.petPaths.map (·.1)).Nodup := by decide
  obtain ⟨router, hrouter⟩ : ∃ router, Router.ofPaths Router.petPaths = .ok router :=
    ⟨_, Router.ofPaths_eq_ok_iff.mpr ⟨Router.isUsable_petPaths, rfl⟩⟩
  have hroutes : router.routes = routesOf Router.petPaths := by
    rw [(Router.ofPaths_eq_ok_iff.mp hrouter).2]
  have hresolve : (Router.bareContract router).findRoute "/pets/mine" none =
      .ok Router.petRoute := by
    apply (Router.isOrdered_of_ofPaths hkeys hrouter).resolve_eq_iff.mpr
    rw [hroutes]
    exact Router.leadsTo_petRoute
  have hrefused : findOperation Router.petRoute "GET" =
      .error (.methodNotAllowed "GET" "/pets/{id}") := by
    have hnone (method : Method) : ({} : PathItem).operation? method = none := by
      cases method <;> rfl
    cases hmethod : (Method.ofName "GET").toOption <;>
      simp [findOperation, Router.petRoute, hmethod, hnone]
  have hunchosen : (Router.bareContract router).findRoute "/pets/mine" (some "/dogs") =
      .error (.pathNotFound "/dogs") := by
    have hunknown : router.find? "/dogs" = none := by
      simp [Router.find?_eq_none_iff, hroutes, routesOf, Router.petPaths]
    simp [findRoute, Router.bareContract, Router.verify, hunknown]
  obtain ⟨hfindings, -, hcounts, -⟩ := @stages_transparent (Router.bareContract router) _
    hkeys hrouter Router.petRequest none {} .method [.path, .whole]
  obtain ⟨-, -, -, hnothing⟩ := @stages_transparent (Router.bareContract router) _
    hkeys hrouter Router.petRequest (some "/dogs") {} .body [.path]
  obtain ⟨hmem, hothers⟩ := hcounts Router.petRoute hresolve
  have hmine : ⟨"/{kind}/mine", {}⟩ ∈ (Router.bareContract router).router.routes := by
    rw [Router.bareContract, hroutes]
    exact List.mem_cons_self
  have hcounted := hothers Router.petRoute hmem
  have huncounted := hothers _ hmine
  refine ⟨hkeys, router, _, hrouter, rfl, ?_, ?_, ?_, hnothing _ hunchosen⟩
  · rw [hfindings {}]
    simp [atFirst_eq, findingOf, verdictOf, operationOf, Router.petRequest, hresolve, hrefused,
      bind, Except.bind, Except.map]
  · simpa [Router.petRoute, Hits.of] using hcounted
  · simpa [Router.petRoute, Hits.of] using huncounted

end Contract
end ApiContract
