import ApiContract.Proofs.Contract.Judgement

/-!
# Refused requests

Whatever is wrong with a request or with what is declared for it, a judgement that fails
gives a failure with the status of a bad request.  So it never says that the contract
itself could not be found or read.
-/

namespace ApiContract

/-- If the answer is a failure, then with the status of a bad request. -/
def BlamesRequest {α : Type} (answer : Except Failure α) : Prop :=
  ∀ failure, answer = .error failure → failure.status = 400

namespace BlamesRequest

variable {α β : Type}

theorem ok (found : α) : BlamesRequest (.ok found) := by
  rintro _ ⟨⟩

theorem error {failure : Failure} (h : failure.status = 400) :
    BlamesRequest (.error failure : Except Failure α) := by
  rintro _ ⟨⟩
  exact h

theorem bind {first : Except Failure α} {rest : α → Except Failure β}
    (hfirst : BlamesRequest first) (hrest : ∀ found, BlamesRequest (rest found)) :
    BlamesRequest (first >>= rest) := by
  cases first with
  | error failure => exact error (hfirst failure rfl)
  | ok found => exact hrest found

theorem foldlM {step : β → α → Except Failure β}
    (hstep : ∀ before item, BlamesRequest (step before item)) (items : List α) (start : β) :
    BlamesRequest (items.foldlM step start) := by
  induction items generalizing start with
  | nil => exact ok start
  | cons item items ih =>
      rw [List.foldlM_cons]
      exact (hstep start item).bind ih

theorem forM {check : α → Except Failure PUnit} (hcheck : ∀ item, BlamesRequest (check item))
    (items : List α) : BlamesRequest (items.forM check) := by
  induction items with
  | nil => exact ok _
  | cons item items ih => exact (hcheck item).bind fun _ => ih

end BlamesRequest

open BlamesRequest

/-! ## The stages of a judgement -/

theorem Parameter.blamesRequest_check (parameter : Parameter) (components : Components)
    (value : Option String) : BlamesRequest (parameter.check components value) := by
  have hmissing : (parameter.missing value).status = 400 := by
    rw [missing]
    split <;> rfl
  rw [check]
  split
  · split
    · exact error hmissing
    · exact ok _
  · split
    · exact ok _
    · exact error rfl

theorem Components.blamesRequest_mergeParameters (components : Components)
    (pathLevel operationLevel : List ParameterOrRef) :
    BlamesRequest (components.mergeParameters pathLevel operationLevel) := by
  have hdeclared (declaration : ParameterOrRef) :
      BlamesRequest (components.declared declaration) := by
    cases declaration with
    | parameter p => exact ok p
    | reference target =>
        simp only [declared]
        split
        · exact ok _
        · exact error rfl
  apply foldlM
  intro merged declaration
  exact (hdeclared declaration).bind fun _ => ok _

namespace Contract

theorem blamesRequest_findRoute (contract : Contract) (path : String) (hint : Option String) :
    BlamesRequest (contract.findRoute path hint) := by
  cases hint with
  | none =>
      rw [findRoute, Router.resolve]
      split
      · exact ok _
      · split
        · exact ok _
        · exact error rfl
  | some text =>
      rw [findRoute, Router.verify]
      split
      · exact error rfl
      · split_ifs
        · exact ok _
        · exact error rfl
        · exact ok _
        · exact error rfl

theorem blamesRequest_findOperation (route : Route) (method : String) :
    BlamesRequest (findOperation route method) := by
  rw [findOperation]
  split
  · exact ok _
  · exact error rfl

theorem blamesRequest_checkParameters (contract : Contract) (route : Route)
    (operation : Operation) (request : Request) :
    BlamesRequest (contract.checkParameters route operation request) := by
  refine (contract.components.blamesRequest_mergeParameters _ _).bind ?_
  intro parameters
  exact forM (fun parameter => parameter.blamesRequest_check _ _) parameters

theorem blamesRequest_checkBody (contract : Contract) (operation : Operation)
    (request : Request) : BlamesRequest (contract.checkBody operation request) := by
  simp only [checkBody]
  split
  · exact ok _
  · split
    · split_ifs
      · exact error rfl
      · exact ok _
    · split
      · exact error rfl
      · split
        · exact ok _
        · split
          · exact error rfl
          · split_ifs
            · exact ok _
            · exact error rfl

theorem blamesRequest_checkSecurity (contract : Contract) (operation : Operation)
    (request : Request) : BlamesRequest (contract.checkSecurity operation request) := by
  rw [checkSecurity]
  split_ifs
  · exact ok _
  · exact error rfl

/-- A contract refuses a request with the status of a bad request. -/
theorem blamesRequest_judge (contract : Contract) (request : Request) (hint : Option String)
    (hits : Hits) : BlamesRequest (contract.judge request hint hits).1 := by
  rw [judge_eq]
  refine (contract.blamesRequest_findRoute _ _).bind fun route => ?_
  refine (blamesRequest_findOperation _ _).bind fun operation => ?_
  refine (contract.blamesRequest_checkParameters _ _ _).bind fun _ => ?_
  refine (contract.blamesRequest_checkBody _ _).bind fun _ => ?_
  exact contract.blamesRequest_checkSecurity _ _

end Contract
end ApiContract
