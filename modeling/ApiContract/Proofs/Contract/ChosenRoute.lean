import ApiContract.Proofs.Contract.Judgement
import ApiContract.Proofs.Route.Resolve

/-!
# Routes that were chosen before

A route that a router finds for a path passes the check of a chosen route, and a chosen
route that passes is the one that is found or a later template.  So a request is judged
alike with the route of its path chosen before and without.
-/

namespace ApiContract
namespace Router

variable {router : Router} {path text : String} {route : Route}

/-- A chosen route passes if it is spelled like the path, or if no route is spelled like
the path and the path fits it. -/
theorem IsOrdered.verify_eq_ok_iff (hordered : router.IsOrdered) :
    router.verify path text = .ok route ↔
      route ∈ router.routes ∧ route.text = text ∧
        (path = text ∨
          (∀ other ∈ router.routes, other.text ≠ path) ∧ route.accepts path = true) := by
  rw [← and_assoc, ← hordered.find?_eq_some_iff, ← find?_eq_none_iff]
  cases hfind : router.find? text with
  | none => simp [verify, hfind]
  | some found =>
      by_cases hpath : path = text
      · simp [verify, hfind, hpath]
      · cases hspelled : router.find? path with
        | some other => simp [verify, hfind, hpath, hspelled]
        | none =>
            by_cases haccepts : found.accepts path = true
            · simp only [verify, hfind, hpath, hspelled, haccepts]
              simp only [if_false, Option.isSome_none, Bool.false_eq_true, if_true, false_or,
                true_and, Except.ok.injEq, Option.some.injEq]
              exact ⟨fun h => ⟨h, h ▸ haccepts⟩, fun h => h.1⟩
            · simp only [verify, hfind, hpath, hspelled, haccepts]
              simp only [if_false, Option.isSome_none, Bool.false_eq_true, false_or,
                true_and, reduceCtorEq, Option.some.injEq, false_iff, not_and]
              rintro rfl
              exact haccepts

/-- A route that is found passes as a chosen one. -/
theorem IsOrdered.verify_of_resolve (hordered : router.IsOrdered)
    (h : router.resolve path = .ok route) : router.verify path route.text = .ok route := by
  rw [hordered.verify_eq_ok_iff]
  cases hordered.resolve_eq_iff.mp h with
  | spelled hmem htext => exact ⟨hmem, rfl, Or.inl htext.symm⟩
  | template hunspelled hmem hfits _ =>
      exact ⟨hmem, rfl, Or.inr ⟨hunspelled, Route.accepts_iff_fits.mpr hfits⟩⟩

/-- If a chosen route passes, the same route is found, or a template before it. -/
theorem IsOrdered.resolve_of_verify (hordered : router.IsOrdered)
    (h : router.verify path text = .ok route) :
    ∃ found, router.resolve path = .ok found ∧
      (found = route ∨ found.isTemplated = true ∧ found.rank < route.rank) := by
  obtain ⟨hmem, rfl, hpath⟩ := hordered.verify_eq_ok_iff.mp h
  rcases hpath with rfl | ⟨hunspelled, haccepts⟩
  · exact ⟨route, hordered.resolve_eq_iff.mpr (.spelled hmem rfl), Or.inl rfl⟩
  · have hfits := Route.accepts_iff_fits.mp haccepts
    cases hfound : router.resolve path with
    | error failure =>
        cases hordered.resolve_eq_iff.mp hfound with
        | nothing _ hunfit => exact absurd hfits (hunfit route hmem)
    | ok found =>
        refine ⟨found, rfl, ?_⟩
        cases hordered.resolve_eq_iff.mp hfound with
        | spelled hmem' htext' => exact absurd htext' (hunspelled found hmem')
        | template _ hmem' hfits' hfirst =>
            rcases (hfirst route hmem hfits).eq_or_lt with hrank | hrank
            · exact Or.inl (List.inj_on_of_nodup_map hordered.nodup hmem' hmem
                (Route.text_eq_of_rank_eq hrank))
            · have haccepts' := Route.accepts_iff_fits.mpr hfits'
              exact Or.inr ⟨Route.isTemplated_of_accepts haccepts', hrank⟩

/-- If nothing is found, no chosen route passes. -/
theorem IsOrdered.exists_verify_eq_error (hordered : router.IsOrdered) {failure : Failure}
    (h : router.resolve path = .error failure) (text : String) :
    ∃ failure', router.verify path text = .error failure' := by
  cases hverify : router.verify path text with
  | error failure' => exact ⟨failure', rfl⟩
  | ok route =>
      obtain ⟨found, hfound, -⟩ := hordered.resolve_of_verify hverify
      cases h.symm.trans hfound

end Router

namespace Contract

/-- The verdict on a request and what is counted depend on its route alone, however that
is found. -/
theorem judge_congr {contract : Contract} {request : Request} {hint hint' : Option String}
    (h : contract.findRoute request.path hint = contract.findRoute request.path hint')
    (hits : Hits) :
    contract.judge request hint hits = contract.judge request hint' hits := by
  rw [judge_eq, judge_eq, h]

end Contract

namespace Router

/-- Finding the route of a path and checking a chosen one agree: what is found passes,
what passes is found unless an earlier template is, and nothing passes where nothing is
found.  By a contract with these routes, a request is judged alike with the route of its
path chosen before and without, and that route alone is counted, once. -/
theorem verify_agrees {router : Router} {paths : List (String × PathItem)}
    (hkeys : (paths.map (·.1)).Nodup) (hrouter : ofPaths paths = .ok router) :
    (∀ path route, router.resolve path = .ok route →
        router.verify path route.text = .ok route) ∧
      (∀ path text route, router.verify path text = .ok route →
        route.text = text ∧ ∃ found, router.resolve path = .ok found ∧
          (found = route ∨ found.isTemplated = true ∧ found.rank < route.rank)) ∧
      (∀ path failure, router.resolve path = .error failure →
        ∀ text, ∃ failure', router.verify path text = .error failure') ∧
      ∀ contract : Contract, contract.router = router → ∀ request route,
        router.resolve request.path = .ok route → ∀ hits,
          contract.judge request (some route.text) hits = contract.judge request none hits ∧
            ∀ text, (contract.judge request none hits).2.of text =
              hits.of text + if text = route.text then 1 else 0 := by
  have hordered := isOrdered_of_ofPaths hkeys hrouter
  refine ⟨?_, ?_, ?_, ?_⟩
  · intro path route hresolve
    exact hordered.verify_of_resolve hresolve
  · intro path text route hverify
    exact ⟨(hordered.verify_eq_ok_iff.mp hverify).2.1, hordered.resolve_of_verify hverify⟩
  · intro path failure hresolve text
    exact hordered.exists_verify_eq_error hresolve text
  · rintro contract rfl request route hresolve hits
    have hfound : contract.findRoute request.path none = .ok route := hresolve
    have hchosen : contract.findRoute request.path (some route.text) = .ok route :=
      hordered.verify_of_resolve hresolve
    refine ⟨Contract.judge_congr (hchosen.trans hfound.symm) hits, ?_⟩
    intro text
    rw [Contract.judge_eq, hfound]
    exact Hits.of_add hits route.text text

/-- A contract with the routes of a router and nothing else. -/
def bareContract (router : Router) : Contract where
  version := "3.0.0"
  info := none
  router := router
  components := {}
  security := []
  digest := []

/-- A request for what is mine among pets. -/
def petRequest : Request where
  method := "GET"
  path := "/pets/mine"

/-- What is mine among pets passes as what is mine of any kind, but is found as one pet,
and is judged so: with and without that route chosen before. -/
theorem verify_agrees_petPaths :
    (petPaths.map (·.1)).Nodup ∧ ∃ router, ofPaths petPaths = .ok router ∧
      router.verify "/pets/mine" "/pets/{id}" = .ok petRoute ∧
        (∃ route found, router.verify "/pets/mine" "/{kind}/mine" = .ok route ∧
          router.resolve "/pets/mine" = .ok found ∧ found.rank < route.rank) ∧
          (bareContract router).judge petRequest (some "/pets/{id}") {} =
              (bareContract router).judge petRequest none {} ∧
            ((bareContract router).judge petRequest none {}).2.of "/pets/{id}" = 1 ∧
              ((bareContract router).judge petRequest none {}).2.of "/{kind}/mine" = 0 := by
  have hkeys : (petPaths.map (·.1)).Nodup := by decide
  have hrouter := ofPaths_eq_ok_iff.mpr ⟨isUsable_petPaths, rfl⟩
  have hordered := isOrdered_of_ofPaths hkeys hrouter
  have hresolve := hordered.resolve_eq_iff.mpr leadsTo_petRoute
  obtain ⟨hpasses, hearlier, -, hjudged⟩ := verify_agrees hkeys hrouter
  refine ⟨hkeys, _, hrouter, hpasses _ _ hresolve, ?_, ?_⟩
  · have hunspelled : ∀ other ∈ routesOf petPaths, other.text ≠ "/pets/mine" := by
      simp [routesOf, petPaths]
    have hverify := hordered.verify_eq_ok_iff.mpr ⟨List.mem_cons_self, rfl,
      Or.inr ⟨hunspelled, by decide +kernel⟩⟩
    obtain ⟨-, found, hfound, heq | ⟨-, hbefore⟩⟩ := hearlier _ _ _ hverify
    · have hroutes := Except.ok.inj (hfound.symm.trans hresolve)
      exact absurd (congrArg Route.text (heq.symm.trans hroutes)) (by decide)
    · exact ⟨_, found, hverify, hfound, hbefore⟩
  · obtain ⟨hsame, hcounts⟩ := hjudged (bareContract _) rfl petRequest _ hresolve {}
    exact ⟨hsame, hcounts "/pets/{id}", hcounts "/{kind}/mine"⟩

end Router
end ApiContract
