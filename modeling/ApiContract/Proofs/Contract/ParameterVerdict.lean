import ApiContract.Proofs.Contract.MergedParameters
import ApiContract.Proofs.Route.Captures

/-!
# The verdict on parameters

What a request brings for a parameter stands at the location of the parameter.  The stage
of the parameters accepts a request if every merged parameter has a value that its schema
accepts, or none and is not required; and it fails with what is wrong with the first
parameter for which this is not so.
-/

namespace ApiContract

/-! ## Values -/

/-- A request brings a text as the value of a parameter: under a key of its query, in a
header or in a cookie, or as what the path has for the first placeholder with the name. -/
inductive Request.Brings (request : Request) (route : Route) (parameter : Parameter) :
    String → Prop where
  | query {text : String} (hlocation : parameter.location = .query)
      (hvalue : request.queryParameter? parameter.name = some text) :
      Brings request route parameter text
  | header {text : String} (hlocation : parameter.location = .header)
      (hvalue : request.header? parameter.name = some text) :
      Brings request route parameter text
  | path {parts : List (List Char)} {raw : List Char} (hlocation : parameter.location = .path)
      (hparts : route.captures? request.path = some parts)
      (hraw : (route.placeholders.zip parts).lookup parameter.name.toList = some raw) :
      Brings request route parameter (String.ofList (Percent.decodeText raw))
  | cookie {text : String} (hlocation : parameter.location = .cookie)
      (hvalue : request.cookie? parameter.name = some text) :
      Brings request route parameter text

namespace Parameter

variable {components : Components} {route : Route} {request : Request} {parameter : Parameter}
  {text : String} {failure : Failure}

theorem value?_eq_some_iff :
    parameter.value? route request = some text ↔ request.Brings route parameter text := by
  constructor
  · intro h
    cases hlocation : parameter.location with
    | query => exact .query hlocation (by simpa [value?, hlocation] using h)
    | header => exact .header hlocation (by simpa [value?, hlocation] using h)
    | cookie => exact .cookie hlocation (by simpa [value?, hlocation] using h)
    | path =>
        have hvalue : route.parameter? request.path parameter.name = some text := by
          simpa [value?, hlocation] using h
        cases hparts : route.captures? request.path with
        | none =>
            have hrefused : route.accepts request.path = false := by simp [Route.accepts, hparts]
            cases (Route.parameter?_of_refused hrefused _).symm.trans hvalue
        | some parts =>
            rw [Route.parameter?_eq_lookup hparts] at hvalue
            obtain ⟨raw, hraw, rfl⟩ := Option.map_eq_some_iff.mp hvalue
            exact .path hlocation hparts hraw
  · rintro (⟨hlocation, hvalue⟩ | ⟨hlocation, hvalue⟩ | ⟨hlocation, hparts, hraw⟩ |
      ⟨hlocation, hvalue⟩)
    · simpa [value?, hlocation] using hvalue
    · simpa [value?, hlocation] using hvalue
    · simp [value?, hlocation, Route.parameter?_eq_lookup hparts, hraw]
    · simpa [value?, hlocation] using hvalue

/-! ## One parameter -/

/-- A request brings a value for the parameter that its schema, if it has one, accepts as a
string; or it brings none, or an empty one, and the parameter is not required. -/
def Fits (components : Components) (route : Route) (request : Request)
    (parameter : Parameter) : Prop :=
  (∃ text, request.Brings route parameter text ∧ text ≠ "" ∧
      ∀ schema, parameter.schema = some schema →
        components.accepts (.string text) schema = true) ∨
    (∀ text, request.Brings route parameter text → text = "") ∧ parameter.required = false

/-- What is wrong with the parameter of a request. -/
inductive Violates (components : Components) (route : Route) (request : Request)
    (parameter : Parameter) : Failure → Prop where
  | absentCookie (hrequired : parameter.required = true)
      (hlocation : parameter.location = .cookie)
      (habsent : ∀ text, ¬request.Brings route parameter text) :
      Violates components route request parameter (.missingCookie parameter.name)
  | absent (hrequired : parameter.required = true) (hlocation : parameter.location ≠ .cookie)
      (habsent : ∀ text, ¬request.Brings route parameter text) :
      Violates components route request parameter (.missingParameter parameter.name)
  | empty (hrequired : parameter.required = true) (hempty : request.Brings route parameter "") :
      Violates components route request parameter (.missingParameter parameter.name)
  | refused {text : String} {schema : Schema} (hbrings : request.Brings route parameter text)
      (hfilled : text ≠ "") (hschema : parameter.schema = some schema)
      (hrefused : components.accepts (.string text) schema = false) :
      Violates components route request parameter (.parameterMismatch parameter.name)

theorem check_of_fits (h : parameter.Fits components route request) :
    parameter.check components (parameter.value? route request) = .ok () := by
  rcases h with ⟨text, hbrings, hfilled, haccepts⟩ | ⟨hunfilled, hoptional⟩
  · have hall : parameter.schema.all (fun schema => components.accepts (.string text) schema) =
        true := by
      simpa [Option.all_eq_true] using haccepts
    simp [value?_eq_some_iff.mpr hbrings, check, Option.filter, hfilled, hall]
  · simp only [← value?_eq_some_iff] at hunfilled
    cases hvalue : parameter.value? route request with
    | none => simp [check, hoptional]
    | some text => simp [check, hunfilled text hvalue, Option.filter, hoptional]

theorem check_of_violates (h : parameter.Violates components route request failure) :
    parameter.check components (parameter.value? route request) = .error failure := by
  have hnone (habsent : ∀ text, ¬request.Brings route parameter text) :
      parameter.value? route request = none := by
    rw [Option.eq_none_iff_forall_ne_some]
    exact fun text hvalue => habsent text (value?_eq_some_iff.mp hvalue)
  cases h with
  | absentCookie hrequired hlocation habsent =>
      simp [hnone habsent, check, hrequired, missing, hlocation]
  | absent hrequired hlocation habsent =>
      simp [hnone habsent, check, hrequired, missing, hlocation]
  | empty hrequired hempty =>
      simp [value?_eq_some_iff.mpr hempty, check, Option.filter, hrequired, missing]
  | refused hbrings hfilled hschema hrefused =>
      simp [value?_eq_some_iff.mpr hbrings, check, Option.filter, hfilled, hschema, hrefused]

/-- Nothing else can be the case. -/
theorem fits_or_violates (components : Components) (route : Route) (request : Request)
    (parameter : Parameter) :
    parameter.Fits components route request ∨
      ∃ failure, parameter.Violates components route request failure := by
  by_cases hfilled : ∃ text, request.Brings route parameter text ∧ text ≠ ""
  · obtain ⟨text, hbrings, hfilled⟩ := hfilled
    by_cases hrefused : ∃ schema, parameter.schema = some schema ∧
        components.accepts (.string text) schema = false
    · obtain ⟨schema, hschema, hrefused⟩ := hrefused
      exact Or.inr ⟨_, .refused hbrings hfilled hschema hrefused⟩
    · refine Or.inl (Or.inl ⟨text, hbrings, hfilled, fun schema hschema => ?_⟩)
      exact Bool.of_not_eq_false fun hfalse => hrefused ⟨schema, hschema, hfalse⟩
  · have hunfilled : ∀ text, request.Brings route parameter text → text = "" :=
      fun text hbrings => not_not.mp fun hne => hfilled ⟨text, hbrings, hne⟩
    cases hrequired : parameter.required with
    | false => exact Or.inl (Or.inr ⟨hunfilled, hrequired⟩)
    | true =>
        right
        by_cases hempty : request.Brings route parameter ""
        · exact ⟨_, .empty hrequired hempty⟩
        · have habsent (text : String) : ¬request.Brings route parameter text :=
            fun hbrings => hempty (hunfilled text hbrings ▸ hbrings)
          by_cases hlocation : parameter.location = .cookie
          · exact ⟨_, .absentCookie hrequired hlocation habsent⟩
          · exact ⟨_, .absent hrequired hlocation habsent⟩

theorem check_eq_ok_iff :
    parameter.check components (parameter.value? route request) = .ok () ↔
      parameter.Fits components route request := by
  refine ⟨fun hok => ?_, check_of_fits⟩
  rcases parameter.fits_or_violates components route request with hfits | ⟨failure, hviolates⟩
  · exact hfits
  · cases hok.symm.trans (check_of_violates hviolates)

theorem check_eq_error_iff :
    parameter.check components (parameter.value? route request) = .error failure ↔
      parameter.Violates components route request failure := by
  refine ⟨fun herror => ?_, check_of_violates⟩
  rcases parameter.fits_or_violates components route request with hfits | ⟨other, hviolates⟩
  · cases herror.symm.trans (check_of_fits hfits)
  · obtain rfl := Except.error.inj (herror.symm.trans (check_of_violates hviolates))
    exact hviolates

end Parameter

namespace Contract

variable {contract : Contract} {route : Route} {operation : Operation} {request : Request}

/-! ## All parameters -/

/-- If all references to parameters stand for something, there are merged parameters, and
the stage accepts a request if it fits all of them.  Otherwise it fails with what is wrong
with the first of them that the request does not fit. -/
theorem checkParameters_verdict
    (hresolve : ∀ target, .reference target ∈ route.item.parameters ++ operation.parameters →
      contract.components.parameter? target ≠ none) :
    ∃ merged, contract.components.mergeParameters route.item.parameters operation.parameters =
        .ok merged ∧
      (contract.checkParameters route operation request = .ok () ↔
        ∀ parameter ∈ merged, parameter.Fits contract.components route request) ∧
      ∀ failure, contract.checkParameters route operation request = .error failure ↔
        ∃ before parameter after, merged = before ++ parameter :: after ∧
          (∀ earlier ∈ before, earlier.Fits contract.components route request) ∧
            parameter.Violates contract.components route request failure := by
  cases hmerged : contract.components.mergeParameters route.item.parameters
      operation.parameters with
  | error failure =>
      obtain ⟨target, hmem, hnone⟩ :=
        Components.exists_mergeParameters_eq_error_iff.mp ⟨failure, hmerged⟩
      exact absurd hnone (hresolve target hmem)
  | ok merged =>
      have hstage : contract.checkParameters route operation request =
          merged.forM fun parameter =>
            parameter.check contract.components (parameter.value? route request) := by
        rw [checkParameters, hmerged]
        rfl
      refine ⟨merged, rfl, ?_, ?_⟩
      · rw [hstage, forM_eq_ok_iff]
        simp only [Parameter.check_eq_ok_iff]
      · intro failure
        rw [hstage, forM_eq_error_iff]
        simp only [Parameter.check_eq_ok_iff, Parameter.check_eq_error_iff]

/-! ### Visits of a session -/

/-- The number of a visit. -/
def visitParameter : Parameter where
  name := "id"
  location := .path
  required := true
  schema := some { type := some .integer }

/-- The session that a visit belongs to. -/
def sessionParameter : Parameter where
  name := "session"
  location := .cookie
  required := true

/-- The page of a visit, which may be left out. -/
def visitPage : Parameter where
  name := "page"
  location := .query
  schema := some { type := some .integer }

def visitRoute : Route where
  text := "/visits/\x7bid\x7d"
  item := { parameters := [.parameter visitParameter] }

def visitOperation : Operation where
  parameters := [.reference "#/components/parameters/Session", .parameter visitPage]

/-- A contract with the session among its components. -/
def visitContract : Contract where
  version := "3.0.0"
  info := none
  router := ⟨[visitRoute], [visitRoute]⟩
  components := { parameters := [("Session", sessionParameter)] }
  security := []
  digest := []

/-- A visit with a header of cookies and a query.  Its number is 7, with an escape. -/
def visitRequest (headers query : List (String × String)) : Request where
  method := "GET"
  path := "/visits/%37"
  query := query
  headers := headers

theorem visitParameter_fits (headers query : List (String × String)) :
    visitParameter.Fits visitContract.components visitRoute (visitRequest headers query) := by
  have hdecoded : Percent.decodeText "%37".toList = "7".toList := by decide +kernel
  have hcaptures : visitRoute.captures? "/visits/%37" = some ["%37".toList] := by
    decide +kernel
  have hnames : visitRoute.placeholders.zip ["%37".toList] =
      [("id".toList, "%37".toList)] := by
    decide +kernel
  have hbrings : (visitRequest headers query).Brings visitRoute visitParameter
      (String.ofList (Percent.decodeText "%37".toList)) :=
    .path rfl hcaptures (by rw [hnames]; rfl)
  have haccepts : visitContract.components.accepts (.string "7") { type := some .integer } =
      true := by
    decide +kernel
  rw [hdecoded] at hbrings
  exact Or.inl ⟨_, hbrings, by decide, by simpa [visitParameter] using haccepts⟩

theorem sessionParameter_fits (query : List (String × String)) :
    sessionParameter.Fits visitContract.components visitRoute
      (visitRequest [("cookie", "session=a")] query) := by
  have hbrings : (visitRequest [("cookie", "session=a")] query).Brings visitRoute
      sessionParameter "a" := .cookie rfl (by rfl)
  exact Or.inl ⟨_, hbrings, by decide, by simp [sessionParameter]⟩

/-- A visit without session, with an empty one, with a page that is no number, and with an
empty page. -/
theorem checkParameters_verdict_visitRoute :
    (∀ target, .reference target ∈
        visitRoute.item.parameters ++ visitOperation.parameters →
          visitContract.components.parameter? target ≠ none) ∧
      visitContract.checkParameters visitRoute visitOperation (visitRequest [] []) =
          .error (.missingCookie "session") ∧
        visitContract.checkParameters visitRoute visitOperation
            (visitRequest [("cookie", "session=")] []) = .error (.missingParameter "session") ∧
          visitContract.checkParameters visitRoute visitOperation
              (visitRequest [("cookie", "session=a")] [("page", "two")]) =
            .error (.parameterMismatch "page") ∧
            visitContract.checkParameters visitRoute visitOperation
                (visitRequest [("cookie", "session=a")] [("page", "")]) = .ok () := by
  have hsession : visitContract.components.parameter? "#/components/parameters/Session" =
      some sessionParameter := by rfl
  have hresolve : ∀ target, .reference target ∈
      visitRoute.item.parameters ++ visitOperation.parameters →
        visitContract.components.parameter? target ≠ none := by
    intro target htarget
    obtain rfl : target = "#/components/parameters/Session" := by
      simpa [visitRoute, visitOperation] using htarget
    simp [hsession]
  have hmerged : visitContract.components.mergeParameters visitRoute.item.parameters
      visitOperation.parameters = .ok [visitParameter, sessionParameter, visitPage] := by
    rfl
  have hverdict (headers query : List (String × String)) :=
    @checkParameters_verdict _ _ _ (visitRequest headers query) hresolve
  simp only [hmerged, Except.ok.injEq, exists_eq_left'] at hverdict
  refine ⟨hresolve, ?_, ?_, ?_, ?_⟩
  · have hnone : sessionParameter.value? visitRoute (visitRequest [] []) = none := by rfl
    have habsent (text : String) :
        ¬(visitRequest [] []).Brings visitRoute sessionParameter text := fun hbrings => by
      cases hnone.symm.trans (Parameter.value?_eq_some_iff.mpr hbrings)
    exact ((hverdict [] []).2 _).mpr ⟨[visitParameter], sessionParameter, _, rfl,
      by simpa using visitParameter_fits [] [], .absentCookie rfl rfl habsent⟩
  · have hempty : (visitRequest [("cookie", "session=")] []).Brings visitRoute
        sessionParameter "" := .cookie rfl (by rfl)
    exact ((hverdict _ []).2 _).mpr ⟨[visitParameter], sessionParameter, _, rfl,
      by simpa using visitParameter_fits _ [], .empty rfl hempty⟩
  · have hbrings : (visitRequest [("cookie", "session=a")] [("page", "two")]).Brings visitRoute
        visitPage "two" := .query rfl (by rfl)
    have hrefused : visitContract.components.accepts (.string "two")
        { type := some .integer } = false := by rfl
    exact ((hverdict _ _).2 _).mpr ⟨[visitParameter, sessionParameter], visitPage, [], rfl,
      by simpa using ⟨visitParameter_fits _ _, sessionParameter_fits _⟩,
      .refused hbrings (by decide) rfl hrefused⟩
  · have hempty : visitPage.value? visitRoute
        (visitRequest [("cookie", "session=a")] [("page", "")]) = some "" := by rfl
    have hpage : visitPage.Fits visitContract.components visitRoute
        (visitRequest [("cookie", "session=a")] [("page", "")]) := by
      refine Or.inr ⟨fun text hbrings => ?_, rfl⟩
      exact Option.some.inj ((Parameter.value?_eq_some_iff.mpr hbrings).symm.trans hempty)
    exact (hverdict _ _).1.mpr
      (by simpa using ⟨visitParameter_fits _ _, sessionParameter_fits _, hpage⟩)

end Contract
end ApiContract
