import ApiContract.Guard.Http
import ApiContract.Proofs.Contract.Body
import Mathlib.Tactic.ByContra

/-!
# Bodies that are handed on

A guard hands on the body of an arriving request when the contract that its store binds
to the selected name accepts the request.  So what was said of accepted bodies holds for
what is behind the guard, and so does the exception: after a head that declares an empty
body, bytes are handed on unread.
-/

namespace ApiContract
namespace Guard

variable {guard : Guard} {request : Request} {hint : Option String} {now : Instant}

/-- The instance by which a guard judges a request: the one that is bound to the selected
name once the store is cleaned up. -/
def Serves (guard : Guard) (request : Request) (now : Instant) (i : Instance) : Prop :=
  ∃ api, guard.selector.select request = some api ∧
    (guard.store.maybeCleanup now).2.bound? api = some i

/-- The verdict on a request under a name is that of the contract that is bound to it. -/
theorem judgeBy_fst_eq (store : Store) (api : String) (request : Request)
    (hint : Option String) (now : Instant) :
    (judgeBy store api request hint now).1 =
      match store.bound? api with
      | some i => (i.contract.judge request hint i.routeHits).1
      | none => .error (.contractNotFound api) := by
  cases hfind : store.find? api with
  | none =>
      have hget : store.get api now = (.error (.contractNotFound api), store) := by
        simp [Store.get, hfind]
      rw [judgeBy, hget, Store.bound?, hfind, Option.bind_none]
  | some handle =>
      have hget : store.get api now = (.ok handle, { store with
          instances := store.instances.modify handle fun i => i.touch now }) := by
        simp [Store.get, hfind]
      rw [judgeBy, hget, Store.bound?, hfind, Option.bind_some]
      cases hinstance : store.instance? handle with
      | none =>
          have htouched : (store.instances.modify handle fun i => i.touch now)[handle]? =
              none := by
            simpa [Store.instance?] using hinstance
          simp only [Store.visit?, Store.instance?, htouched, Option.map_none,
            Option.getD_none]
      | some i =>
          have htouched : (store.instances.modify handle fun i => i.touch now)[handle]? =
              some (i.touch now) := by
            have hinstance : store.instances[handle]? = some i := hinstance
            simp [hinstance]
          simp only [Store.visit?, Store.instance?, htouched, Option.map_some,
            Option.getD_some]
          rfl

theorem accepted_of_judgeBy {store : Store} {api : String}
    (h : (judgeBy store api request hint now).1 = .ok ()) :
    ∃ i, store.bound? api = some i ∧
      (i.contract.judge request hint i.routeHits).1 = .ok () := by
  rw [judgeBy_fst_eq] at h
  cases hbound : store.bound? api with
  | none =>
      rw [hbound] at h
      cases h
  | some i =>
      rw [hbound] at h
      exact ⟨i, rfl, h⟩

/-- The verdict of a guard is the one under the selected name in the store that is cleaned
up.  That store is a variable, since the time spans of the cleanup are too long to be
counted out. -/
theorem verdict_eq_of_select {cleaned : Nat × Store} {api : String}
    (hcleaned : guard.store.maybeCleanup now = cleaned)
    (hselect : guard.selector.select request = some api) :
    (guard.judge request hint now).1.verdict =
      (judgeBy cleaned.2 api request hint now).1 := by
  simp only [judge, hcleaned, hselect]

/-- What a guard accepts, the contract under the selected name accepts. -/
theorem accepted_of_judge {cleaned : Nat × Store}
    (hcleaned : guard.store.maybeCleanup now = cleaned)
    (h : (guard.judge request hint now).1.verdict = .ok ()) :
    ∃ api i, guard.selector.select request = some api ∧ cleaned.2.bound? api = some i ∧
      (i.contract.judge request hint i.routeHits).1 = .ok () := by
  cases hselect : guard.selector.select request with
  | none =>
      simp only [judge, hselect] at h
      cases h
  | some api =>
      rw [verdict_eq_of_select hcleaned hselect] at h
      obtain ⟨i, hbound, haccepted⟩ := accepted_of_judgeBy h
      exact ⟨api, i, rfl, hbound, haccepted⟩

/-- What is handed on is the body of the request, which was accepted with it. -/
theorem accepted_of_receive {arriving : ArrivingRequest} {handed : List UInt8}
    (h : (guard.receive arriving now).1 = .ok handed) :
    handed = arriving.body ∧ ∃ i, guard.Serves arriving.toRequest now i ∧
      i.contract.AcceptsBody arriving.toRequest none i.routeHits handed := by
  by_cases hlarge : guard.bodyLimit < arriving.body.length
  · simp [receive, hlarge] at h
  · have hverdict : (guard.judge arriving.toRequest none now).1.verdict.map
        (fun _ => arriving.body) = .ok handed := by
      simpa [receive, hlarge] using h
    cases haccepted : (guard.judge arriving.toRequest none now).1.verdict with
    | error failure => simp [haccepted, Except.map] at hverdict
    | ok _ =>
        obtain rfl : arriving.body = handed := by
          simpa [haccepted, Except.map] using hverdict
        obtain ⟨api, i, hselect, hbound, hjudged⟩ := accepted_of_judge rfl haccepted
        exact ⟨rfl, i, ⟨api, hselect, hbound⟩, hjudged⟩

/-- Of the bodies that follow one head, all that are accepted are checked, unless the head
declares that there is none, is accepted itself, and none is required; and what a guard
hands on is checked with the same exception. -/
theorem bodies_checked_iff {contract : Contract} {body : RequestBody} {hits : Hits}
    (hdeclared : contract.requestBody? request hint = some body) :
    ((∀ bytes, bytes ≠ [] → contract.AcceptsBody request hint hits bytes →
          contract.ChecksBody body (request.withBody bytes)) ↔
        ¬(request.DeclaresEmpty ∧ body.required = false ∧
          contract.AcceptsHead request hint ∧
            ∃ bytes, bytes ≠ [] ∧ ¬contract.ChecksBody body (request.withBody bytes))) ∧
      ∀ (guard : Guard) (arriving : ArrivingRequest) (now : Instant) (handed : List UInt8),
        (guard.receive arriving now).1 = .ok handed → handed ≠ [] →
          handed = arriving.body ∧ ∃ i, guard.Serves arriving.toRequest now i ∧
            ∀ body, i.contract.requestBody? arriving.toRequest none = some body →
              arriving.toRequest.DeclaresEmpty ∧ body.required = false ∨
                i.contract.ChecksBody body arriving.toRequest := by
  refine ⟨⟨?_, ?_⟩, ?_⟩
  · rintro hchecked ⟨hempty, hrequired, hhead, bytes, hbytes, hunchecked⟩
    have haccepted : contract.AcceptsBody request hint hits bytes :=
      (Contract.acceptsBody_iff hdeclared hbytes).mpr
        ⟨hhead, Or.inl ⟨hempty, hrequired⟩⟩
    exact hunchecked (hchecked bytes hbytes haccepted)
  · intro hexception bytes hbytes haccepted
    obtain ⟨hhead, -⟩ := (Contract.acceptsBody_iff hdeclared hbytes).mp haccepted
    rcases Contract.checksBody_of_accepted hdeclared hbytes haccepted with
      ⟨hempty, hrequired⟩ | hchecks
    · by_contra hunchecked
      exact hexception ⟨hempty, hrequired, hhead, bytes, hbytes, hunchecked⟩
    · exact hchecks
  · intro guard arriving now handed hreceive hhanded
    obtain ⟨rfl, i, hserves, haccepted⟩ := accepted_of_receive hreceive
    refine ⟨rfl, i, hserves, ?_⟩
    intro body hdeclared
    exact Contract.checksBody_of_accepted hdeclared hhanded haccepted

/-! ## A body after a head that declares none -/

/-- Bodies that may be left out and name a pet. -/
def petBody : RequestBody where
  content := [("application/json",
    { schema := some { type := some .object, required := ["name"] } })]

def petItem : PathItem where
  post := some { requestBody := some petBody }

def petDocument : Document where
  version := "3.0.0"
  paths := [("/pets", petItem)]

/-- The contract of `petDocument`. -/
def petContract : Contract where
  version := "3.0.0"
  info := none
  router := ⟨[⟨"/pets", petItem⟩], []⟩
  components := {}
  security := []
  digest := []

def petHead : Request where
  method := "POST"
  path := "/pets"

/-- The head of a request whose length is declared to be zero. -/
def emptyHead : Request :=
  petHead.withHeader "Content-Length" "0"

/-- Bytes that are no JSON text. -/
def petText : List UInt8 :=
  Utf8.encode "not json".toList

/-- After a head without declared length, every accepted body is checked. -/
theorem bodies_checked_petHead :
    petContract.requestBody? petHead none = some petBody ∧
      ∀ bytes, bytes ≠ [] → petContract.AcceptsBody petHead none {} bytes →
        petContract.ChecksBody petBody (petHead.withBody bytes) := by
  have hdeclared : petContract.requestBody? petHead none = some petBody := by rfl
  refine ⟨hdeclared, (bodies_checked_iff hdeclared).1.mpr ?_⟩
  rintro ⟨hempty, -⟩
  simp [Request.DeclaresEmpty, petHead, Request.header?] at hempty

theorem ofDocument_petDocument :
    Contract.ofDocument petDocument [] = .ok petContract := by
  have hliteral : Template.placeholders "/pets".toList = [] := by
    rw [Template.placeholders]
    rfl
  have hplain : Route.isTemplated ⟨"/pets", petItem⟩ = false := by
    rw [Route.isTemplated, Route.placeholders, hliteral]
    rfl
  have hrouter : Router.ofPaths petDocument.paths = .ok petContract.router := by
    simp [Router.ofPaths, petDocument, petContract, Route.isUsable, hplain]
  rw [Contract.ofDocument, hrouter]
  rfl

theorem parse?_petText : (Utf8.decode? petText).bind Json.parse? = none := by
  have hbytes : petText = [110, 111, 116, 32, 106, 115, 111, 110] := by rfl
  have hdecode : Utf8.decode? petText = some "not json".toList := by
    simp [Utf8.decode?, Utf8.pieces, Utf8.step, hbytes]
  rw [hdecode]
  rfl

/-- A contract accepts a body that it does not check. -/
theorem unchecked_petText_accepted :
    Contract.ofDocument petDocument [] = .ok petContract ∧
      petContract.requestBody? emptyHead none = some petBody ∧ petText ≠ [] ∧
        petContract.AcceptsBody emptyHead none {} petText ∧
          ¬petContract.ChecksBody petBody (emptyHead.withBody petText) := by
  refine ⟨ofDocument_petDocument, by rfl, by decide, by rfl, ?_⟩
  rintro ⟨mediaType, hmedia, hschema⟩
  have hjson : petBody.mediaType? (emptyHead.withBody petText).bodyEssence =
      some { schema := some { type := some .object, required := ["name"] } } := by
    rfl
  obtain rfl := Option.some.inj (hjson.symm.trans hmedia)
  obtain ⟨value, hvalue, -⟩ := hschema _ rfl
  have hread : (Utf8.decode? petText).bind Json.parse? = some value := hvalue
  rw [parse?_petText] at hread
  cases hread

end Guard
end ApiContract
