import ApiContract.Contract.Security
import ApiContract.Proofs.Request.Arrivals
import ApiContract.Proofs.Text.Lookup

/-!
# Credentials

A request without anything that a scheme could take for credentials passes only where none
are needed.  One that passes still does so whatever is added to it, since all that was found
in it is found again (`Request.Keeps`): what comes later under the same key or name is not
looked at, or is joined to what was there.
-/

namespace ApiContract
namespace Request

variable {request later latest : Request} {name : String}

/-! ## What is kept -/

/-- Whatever is found in a request is found in a later one.  The header of cookies may grow
at its end. -/
structure Keeps (request later : Request) : Prop where
  query : ∀ key value, request.queryParameter? key = some value →
    later.queryParameter? key = some value
  header : ∀ name value, Ascii.equalIgnoringCase name "cookie" = false →
    request.header? name = some value → later.header? name = some value
  cookieHeader : ∀ value, request.header? "cookie" = some value →
    ∃ more, later.header? "cookie" = some (value ++ more)
  cookie : ∀ name value, request.cookie? name = some value → later.cookie? name = some value

theorem Keeps.refl (request : Request) : request.Keeps request where
  query _ _ h := h
  header _ _ _ h := h
  cookieHeader _ h := ⟨"", by simpa using h⟩
  cookie _ _ h := h

theorem Keeps.trans (h : request.Keeps later) (h' : later.Keeps latest) :
    request.Keeps latest where
  query key value hvalue := h'.query key value (h.query key value hvalue)
  header name value hname hvalue := h'.header name value hname (h.header name value hname hvalue)
  cookieHeader value hvalue := by
    obtain ⟨more, hmore⟩ := h.cookieHeader value hvalue
    obtain ⟨rest, hrest⟩ := h'.cookieHeader _ hmore
    exact ⟨more ++ rest, by rw [hrest, String.append_assoc]⟩
  cookie name value hvalue := h'.cookie name value (h.cookie name value hvalue)

/-- What was there comes before what arrives. -/
theorem keeps_add (request : Request) (arrival : Arrival) :
    request.Keeps (request.add arrival) where
  query key value h := by rw [queryParameter?_add, h, Option.some_or]
  header name value hname h := by rw [header?_add hname, h, Option.some_or]
  cookieHeader value h := by
    rw [header?_cookie_add, h]
    cases arrival.header? "cookie" with
    | none => exact ⟨"", by simp⟩
    | some new => exact ⟨"; " ++ new, by simp [Option.merge, String.append_assoc]⟩
  cookie name value h := by
    rw [cookie?_eq_lookup] at h
    rw [cookie?_eq_lookup, cookies_add, List.lookup_append, h, Option.some_or]

theorem keeps_addAll (request : Request) (arrivals : List Arrival) :
    request.Keeps (request.addAll arrivals) := by
  induction arrivals generalizing request with
  | nil => exact .refl request
  | cons arrival arrivals ih => exact (request.keeps_add arrival).trans (ih _)

/-! ## Credentials are kept -/

theorem any_of_kept {found found' : Option String} {accepts : String → Bool}
    (hkept : ∀ value, found = some value → found' = some value)
    (h : found.any accepts = true) : found'.any accepts = true := by
  obtain ⟨value, hvalue, haccepts⟩ := (Option.any_eq_true _ _).mp h
  exact (Option.any_eq_true _ _).mpr ⟨value, hkept value hvalue, haccepts⟩

/-- A header that is not empty is not empty later, be it that of cookies or not. -/
theorem Keeps.header_filled (h : request.Keeps later)
    (hfilled : (request.header? name).any (· ≠ "") = true) :
    (later.header? name).any (· ≠ "") = true := by
  -- the header of cookies may have grown, any other is the same
  by_cases hcookie : Ascii.equalIgnoringCase name "cookie" = true
  · have hsame (request : Request) : request.header? name = request.header? "cookie" := by
      rw [header?, header?, Ascii.equalIgnoringCase_iff.mp hcookie]
    obtain ⟨value, hvalue, hne⟩ := (Option.any_eq_true _ _).mp hfilled
    rw [hsame] at hvalue
    obtain ⟨more, hmore⟩ := h.cookieHeader value hvalue
    rw [hsame, hmore, Option.any_some]
    simp only [ne_eq, decide_eq_true_eq] at hne ⊢
    intro hempty
    exact hne (String.append_eq_empty_iff.mp hempty).1
  · exact any_of_kept (fun value => h.header name value (Bool.not_eq_true _ ▸ hcookie)) hfilled

theorem Keeps.authorization (h : request.Keeps later) {start credentials : String}
    (hgiven : request.authorization? start = some credentials) :
    later.authorization? start = some credentials := by
  obtain ⟨value, hvalue, hstart⟩ := Option.bind_eq_some_iff.mp hgiven
  exact Option.bind_eq_some_iff.mpr ⟨value, h.header _ _ (by decide) hvalue, hstart⟩

theorem Keeps.hasBearerToken (h : request.Keeps later)
    (htoken : request.hasBearerToken = true) : later.hasBearerToken = true :=
  any_of_kept (fun _ => h.authorization) htoken

end Request

variable {request later : Request} {contract : Contract} {operation : Operation}

namespace SecurityScheme

variable {scheme : SecurityScheme}

/-- A scheme for which a request has credentials is satisfied later as well. -/
theorem isSatisfied_of_keeps (h : request.Keeps later)
    (hsatisfied : scheme.isSatisfied request = true) : scheme.isSatisfied later = true := by
  cases hkind : scheme.kind with
  | apiKey =>
      simp only [isSatisfied, hkind] at hsatisfied ⊢
      obtain ⟨name, hname, hkey⟩ := (Option.any_eq_true _ _).mp hsatisfied
      refine (Option.any_eq_true _ _).mpr ⟨name, hname, ?_⟩
      cases hlocation : scheme.location with
      | none => simp [key?, hlocation] at hkey
      | some location =>
          rw [hlocation] at hkey
          cases location with
          | header => exact h.header_filled hkey
          | query => exact Request.any_of_kept (h.query name) hkey
          | cookie => exact Request.any_of_kept (h.cookie name) hkey
          | path => simp [key?] at hkey
  | http =>
      simp only [isSatisfied, hkind] at hsatisfied ⊢
      obtain ⟨start, hstart, hgiven⟩ := (Option.any_eq_true _ _).mp hsatisfied
      obtain ⟨credentials, hcredentials⟩ := Option.isSome_iff_exists.mp hgiven
      refine (Option.any_eq_true _ _).mpr ⟨start, hstart, ?_⟩
      rw [h.authorization hcredentials]
      rfl
  | oauth2 =>
      simp only [isSatisfied, hkind] at hsatisfied ⊢
      exact h.hasBearerToken hsatisfied
  | openIdConnect =>
      simp only [isSatisfied, hkind, Bool.or_eq_true] at hsatisfied ⊢
      exact hsatisfied.imp h.hasBearerToken (Request.any_of_kept (h.query "id_token"))
  | unsupported => simp [isSatisfied, hkind] at hsatisfied

end SecurityScheme

namespace Components

variable {components : Components} {requirement : SecurityRequirement}

theorem satisfies_iff :
    components.satisfies requirement request = true ↔
      ∀ scheme ∈ requirement, ∃ declared,
        components.securitySchemes.lookup scheme.1 = some declared ∧
          declared.isSatisfied request = true := by
  simp only [satisfies, List.all_eq_true, Option.any_eq_true]

theorem satisfies_of_keeps (h : request.Keeps later)
    (hsatisfied : components.satisfies requirement request = true) :
    components.satisfies requirement later = true := by
  rw [satisfies_iff] at hsatisfied ⊢
  intro scheme hscheme
  obtain ⟨declared, hdeclared, hgiven⟩ := hsatisfied scheme hscheme
  exact ⟨declared, hdeclared, SecurityScheme.isSatisfied_of_keeps h hgiven⟩

end Components

namespace Contract

/-- The security requirements of an operation: its own, even if there are none, or else
those of the document. -/
def requirements (contract : Contract) (operation : Operation) : List SecurityRequirement :=
  operation.security.getD contract.security

theorem checkSecurity_eq_ok_iff :
    contract.checkSecurity operation request = .ok () ↔
      contract.requirements operation = [] ∨
        ∃ requirement ∈ contract.requirements operation,
          contract.components.satisfies requirement request = true := by
  simp only [checkSecurity, requirements]
  split_ifs with hpasses
  · simpa [List.any_eq_true] using hpasses
  · simpa [List.any_eq_true] using hpasses

theorem checkSecurity_of_keeps (h : request.Keeps later)
    (hpasses : contract.checkSecurity operation request = .ok ()) :
    contract.checkSecurity operation later = .ok () := by
  rw [checkSecurity_eq_ok_iff] at hpasses ⊢
  refine hpasses.imp_right ?_
  rintro ⟨requirement, hrequirement, hsatisfied⟩
  exact ⟨requirement, hrequirement, Components.satisfies_of_keeps h hsatisfied⟩

end Contract

/-! ## Without credentials -/

/-- A request has nothing that a scheme of the components could take for credentials: no
authorization, no cookies, no query, and none of the headers that hold a key. -/
structure Request.LacksCredentials (request : Request) (components : Components) : Prop where
  authorization : request.header? "authorization" = none
  cookie : request.header? "cookie" = none
  query : ∀ key, request.queryParameter? key = none
  keyHeader : ∀ name scheme header, (name, scheme) ∈ components.securitySchemes →
    scheme.kind = .apiKey → scheme.location = some .header → scheme.name = some header →
      request.header? header = none

namespace Request.LacksCredentials

variable {components : Components}

/-- No declared scheme is satisfied. -/
theorem isSatisfied_eq_false (h : request.LacksCredentials components) {name : String}
    {scheme : SecurityScheme} (hdeclared : (name, scheme) ∈ components.securitySchemes) :
    scheme.isSatisfied request = false := by
  have hauthorization (start : String) : request.authorization? start = none := by
    rw [authorization?, h.authorization, Option.bind_none]
  have htoken : request.hasBearerToken = false := by
    rw [hasBearerToken, hauthorization, Option.any_none]
  cases hkind : scheme.kind with
  | apiKey =>
      simp only [SecurityScheme.isSatisfied, hkind, Option.any_eq_false]
      intro header hheader
      have hkey : SecurityScheme.key? scheme.location header request = none := by
        cases hlocation : scheme.location with
        | none => rfl
        | some location =>
            cases location with
            | header => exact h.keyHeader name scheme header hdeclared hkind hlocation hheader
            | query => exact h.query header
            | cookie => rw [SecurityScheme.key?, cookie?, h.cookie]; rfl
            | path => rfl
      intro value hvalue
      cases hkey.symm.trans hvalue
  | http =>
      simp only [SecurityScheme.isSatisfied, hkind, Option.any_eq_false]
      intro start _
      rw [hauthorization, Option.isSome_none]
  | oauth2 => simp only [SecurityScheme.isSatisfied, hkind, htoken]
  | openIdConnect =>
      simp only [SecurityScheme.isSatisfied, hkind, htoken, h.query, Bool.false_or,
        Option.any_none]
  | unsupported => simp only [SecurityScheme.isSatisfied, hkind]

theorem satisfies_iff (h : request.LacksCredentials components)
    {requirement : SecurityRequirement} :
    components.satisfies requirement request = true ↔ requirement = [] := by
  rw [Components.satisfies_iff, List.eq_nil_iff_forall_not_mem]
  refine forall_congr' fun scheme => imp_congr_right fun _ => iff_false_intro ?_
  rintro ⟨declared, hdeclared, hsatisfied⟩
  rw [h.isSatisfied_eq_false (mem_of_lookup hdeclared)] at hsatisfied
  exact Bool.false_ne_true hsatisfied

end Request.LacksCredentials

namespace Contract

/-- A request without credentials passes exactly if there are no requirements or one of them
names no scheme.  A request that passes does so with whatever is added to it, one thing
after the other, since all that was found in it is found again. -/
theorem checkSecurity_closed_and_kept (contract : Contract) (operation : Operation) :
    (∀ request : Request, request.LacksCredentials contract.components →
      (contract.checkSecurity operation request = .ok () ↔
        contract.requirements operation = [] ∨ [] ∈ contract.requirements operation)) ∧
      ∀ (request : Request) (arrivals : List Arrival),
        request.Keeps (request.addAll arrivals) ∧
          (contract.checkSecurity operation request = .ok () →
            contract.checkSecurity operation (request.addAll arrivals) = .ok ()) := by
  refine ⟨fun request hlacks => ?_, fun request arrivals => ?_⟩
  · rw [checkSecurity_eq_ok_iff]
    simp only [hlacks.satisfies_iff, exists_eq_right]
  · have hkeeps := request.keeps_addAll arrivals
    exact ⟨hkeeps, checkSecurity_of_keeps hkeeps⟩

/-! ### A key and a session -/

/-- A contract that asks for a key in a header together with a session in a cookie, or for
a scheme that is not declared. -/
def sessionContract : Contract where
  version := "3.0.0"
  info := none
  router := ⟨[], []⟩
  components := {
    securitySchemes := [
      ("key", { kind := .apiKey, name := some "X-API-Key", location := some .header }),
      ("session", { kind := .apiKey, name := some "session", location := some .cookie }),
      ("bearer", { kind := .http, scheme := some "bearer" })] }
  security := [[("key", []), ("session", [])], [("undeclared", [])]]
  digest := []

/-- A request with headers and a query. -/
def petsRequest (headers query : List (String × String)) : Request where
  method := "GET"
  path := "/pets"
  headers := headers
  query := query

/-- An empty key, another session and a header without scheme. -/
def emptyArrivals : List Arrival :=
  [.header "x-api-key" "", .header "Cookie" "session=", .header "Authorization" "none",
    .query "session=", .body []]

/-- A request without credentials is refused, and passes where the operation declares that
it needs none; one with both credentials passes, also after empty ones are added. -/
theorem checkSecurity_closed_and_kept_petsRequest :
    (petsRequest [("accept", "*/*")] []).LacksCredentials sessionContract.components ∧
      sessionContract.checkSecurity {} (petsRequest [("accept", "*/*")] []) ≠ .ok () ∧
        sessionContract.checkSecurity { security := some [] }
            (petsRequest [("accept", "*/*")] []) = .ok () ∧
          sessionContract.checkSecurity {}
              (petsRequest [("x-api-key", "k"), ("cookie", "session=s")] []) = .ok () ∧
            sessionContract.checkSecurity {}
                ((petsRequest [("x-api-key", "k"), ("cookie", "session=s")] []).addAll
                  emptyArrivals) = .ok () := by
  have hlacks : (petsRequest [("accept", "*/*")] []).LacksCredentials
      sessionContract.components := by
    refine ⟨by decide, by decide, fun _ => rfl, ?_⟩
    intro name scheme header hdeclared hkind hlocation hheader
    simp only [sessionContract, List.mem_cons, Prod.mk.injEq, List.not_mem_nil,
      or_false] at hdeclared
    rcases hdeclared with ⟨-, rfl⟩ | ⟨-, rfl⟩ | ⟨-, rfl⟩
    · obtain rfl := Option.some.inj hheader
      decide
    · cases hlocation
    · cases hkind
  have hpasses : sessionContract.checkSecurity {}
      (petsRequest [("x-api-key", "k"), ("cookie", "session=s")] []) = .ok () := by rfl
  obtain ⟨hclosed, hkept⟩ := checkSecurity_closed_and_kept sessionContract {}
  obtain ⟨hopen, -⟩ := checkSecurity_closed_and_kept sessionContract { security := some [] }
  refine ⟨hlacks, ?_, (hopen _ hlacks).mpr (Or.inl rfl), hpasses,
    (hkept _ emptyArrivals).2 hpasses⟩
  rw [ne_eq, hclosed _ hlacks]
  simp [requirements, sessionContract]

end Contract
end ApiContract
