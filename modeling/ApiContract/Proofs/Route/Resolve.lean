import ApiContract.Proofs.Route.Template
import ApiContract.Proofs.Text.Utf8
import ApiContract.Route.Router
import Mathlib.Data.List.Nodup
import Mathlib.Data.Prod.Lex
import Mathlib.Order.OrderDual

/-!
# The best route for a path

A path leads to the route that is spelled like it, or else to the first one, in the order
in which templates are tried, of the templates that it fits.  This order is a linear one
on texts, so the answer depends on the set of declared paths alone and not on the order
in which they were declared.
-/

namespace ApiContract
namespace Route

/-- The place of a template in the order in which templates are tried: those with fewer
placeholders come first, then those with more bytes of literal text in front, then those
whose own bytes come first. -/
def rank (route : Route) : ℕ ×ₗ ℕᵒᵈ ×ₗ List ℕ :=
  toLex (route.placeholders.length,
    toLex (OrderDual.toDual route.literalStart, Utf8.octets route.text.toList))

theorem precedes_iff_rank_le {a b : Route} : a.precedes b = true ↔ a.rank ≤ b.rank := by
  rw [rank, rank, Prod.Lex.toLex_le_toLex, Prod.Lex.toLex_le_toLex]
  simp only [Utf8.octets_le_octets_iff, ← String.le_iff_toList_le]
  rw [precedes]
  by_cases hcount : a.placeholders.length = b.placeholders.length
  · by_cases hstart : a.literalStart = b.literalStart
    · simp [hcount, hstart]
    · simp [hcount, hstart]
  · simp [hcount]

/-- Different texts have different places. -/
theorem text_eq_of_rank_eq {a b : Route} (h : a.rank = b.rank) : a.text = b.text := by
  have hoctets : Utf8.octets a.text.toList = Utf8.octets b.text.toList :=
    congrArg (fun r => (ofLex (ofLex r).2).2) h
  have hle := Utf8.octets_le_octets_iff.mp hoctets.le
  have hge := Utf8.octets_le_octets_iff.mp hoctets.ge
  exact le_antisymm (String.le_iff_toList_le.mpr hle) (String.le_iff_toList_le.mpr hge)

end Route

/-- The routes of declared paths. -/
def routesOf (paths : List (String × PathItem)) : List Route :=
  paths.map fun p => ⟨p.1, p.2⟩

/-- What a path leads to among declared routes. -/
inductive LeadsTo (routes : List Route) (path : String) : Except Failure Route → Prop
  /-- The route that is spelled like the path, be it a template or not. -/
  | spelled {route : Route} (hmem : route ∈ routes) (htext : route.text = path) :
      LeadsTo routes path (.ok route)
  /-- The first template that the path fits. -/
  | template {route : Route} (hunspelled : ∀ other ∈ routes, other.text ≠ path)
      (hmem : route ∈ routes) (hfits : route.Fits path)
      (hfirst : ∀ other ∈ routes, other.Fits path → route.rank ≤ other.rank) :
      LeadsTo routes path (.ok route)
  /-- There is no such route. -/
  | nothing (hunspelled : ∀ other ∈ routes, other.text ≠ path)
      (hunfit : ∀ other ∈ routes, ¬other.Fits path) :
      LeadsTo routes path (.error (.routeNotFound path))

/-- Among routes with different texts, a path leads to one answer. -/
theorem LeadsTo.unique {routes : List Route} {path : String} {a b : Except Failure Route}
    (htexts : (routes.map Route.text).Nodup) (ha : LeadsTo routes path a)
    (hb : LeadsTo routes path b) : a = b := by
  have hinjective := List.inj_on_of_nodup_map htexts
  cases ha with
  | spelled hmem htext =>
      cases hb with
      | spelled hmem' htext' => rw [hinjective hmem hmem' (htext.trans htext'.symm)]
      | template hunspelled _ _ _ => exact absurd htext (hunspelled _ hmem)
      | nothing hunspelled _ => exact absurd htext (hunspelled _ hmem)
  | template hunspelled hmem hfits hfirst =>
      cases hb with
      | spelled hmem' htext' => exact absurd htext' (hunspelled _ hmem')
      | template _ hmem' hfits' hfirst' =>
          have hrank := le_antisymm (hfirst _ hmem' hfits') (hfirst' _ hmem hfits)
          rw [hinjective hmem hmem' (Route.text_eq_of_rank_eq hrank)]
      | nothing _ hunfit => exact absurd hfits (hunfit _ hmem)
  | nothing hunspelled hunfit =>
      cases hb with
      | spelled hmem' htext' => exact absurd htext' (hunspelled _ hmem')
      | template _ hmem' hfits' _ => exact absurd hfits' (hunfit _ hmem')
      | nothing _ _ => rfl

namespace Router

/-- The routes have texts of their own, and the templates among them are in order. -/
structure IsOrdered (router : Router) : Prop where
  nodup : (router.routes.map Route.text).Nodup
  templated_eq :
    router.templated = (router.routes.filter Route.isTemplated).mergeSort Route.precedes

variable {router : Router} {paths : List (String × PathItem)} {path : String}
  {route : Route}

/-- The router of declared paths, if they can all be used. -/
theorem ofPaths_eq_ok_iff :
    ofPaths paths = .ok router ↔
      (∀ route ∈ routesOf paths, route.isUsable = true) ∧
        router = ⟨routesOf paths,
          ((routesOf paths).filter Route.isTemplated).mergeSort Route.precedes⟩ := by
  rw [ofPaths]
  by_cases husable : ∀ route ∈ routesOf paths, route.isUsable = true
  · rw [routesOf] at husable ⊢
    simp only [List.all_eq_true.mpr husable, if_true, Except.ok.injEq]
    exact ⟨fun h => ⟨husable, h.symm⟩, fun h => h.2.symm⟩
  · rw [routesOf] at husable ⊢
    simp only [List.all_eq_true, husable, if_false, false_and, reduceCtorEq]

theorem isOrdered_of_ofPaths (hkeys : (paths.map (·.1)).Nodup)
    (h : ofPaths paths = .ok router) : router.IsOrdered := by
  obtain ⟨-, rfl⟩ := ofPaths_eq_ok_iff.mp h
  refine ⟨?_, rfl⟩
  rw [routesOf, List.map_map]
  exact hkeys

namespace IsOrdered

variable (hordered : router.IsOrdered)
include hordered

theorem find?_eq_some_iff {text : String} :
    router.find? text = some route ↔ route ∈ router.routes ∧ route.text = text := by
  constructor
  · intro h
    exact ⟨List.mem_of_find?_eq_some h, by simpa using List.find?_some h⟩
  · rintro ⟨hmem, rfl⟩
    cases hfind : router.find? route.text with
    | none =>
        have hnone := List.find?_eq_none.mp hfind route hmem
        simp at hnone
    | some other =>
        have htext : other.text = route.text := by simpa using List.find?_some hfind
        have hother := List.mem_of_find?_eq_some hfind
        rw [List.inj_on_of_nodup_map hordered.nodup hother hmem htext]

theorem mem_templated_iff :
    route ∈ router.templated ↔ route ∈ router.routes ∧ route.isTemplated = true := by
  rw [hordered.templated_eq, List.mem_mergeSort, List.mem_filter]

theorem pairwise_templated :
    router.templated.Pairwise fun a b => a.rank ≤ b.rank := by
  rw [hordered.templated_eq]
  apply (List.pairwise_mergeSort _ _ _).imp
  · intro a b h
    exact Route.precedes_iff_rank_le.mp h
  · intro a b c hab hbc
    simp only [Route.precedes_iff_rank_le] at hab hbc ⊢
    exact hab.trans hbc
  · intro a b
    simp only [Bool.or_eq_true, Route.precedes_iff_rank_le]
    exact le_total _ _

end IsOrdered

theorem find?_eq_none_iff {text : String} :
    router.find? text = none ↔ ∀ route ∈ router.routes, route.text ≠ text := by
  simp [find?]

/-- The first template that accepts a path comes before all others that do. -/
theorem IsOrdered.rank_le_of_find? (hordered : router.IsOrdered)
    (h : router.templated.find? (·.accepts path) = some route) {other : Route}
    (hmem : other ∈ router.routes) (haccepts : other.accepts path = true) :
    route.rank ≤ other.rank := by
  obtain ⟨-, before, after, hsplit, hrefused⟩ := List.find?_eq_some_iff_append.mp h
  have hother : other ∈ router.templated :=
    hordered.mem_templated_iff.mpr ⟨hmem, Route.isTemplated_of_accepts haccepts⟩
  have hsorted := hordered.pairwise_templated
  rw [hsplit] at hother hsorted
  rcases List.mem_append.mp hother with hbefore | hafter
  · have hrefuses := hrefused other hbefore
    simp [haccepts] at hrefuses
  · rcases List.mem_cons.mp hafter with rfl | hafter
    · exact le_refl _
    · exact (List.pairwise_cons.mp (List.pairwise_append.mp hsorted).2.1).1 other hafter

/-- A router answers with what the path leads to. -/
theorem IsOrdered.leadsTo_resolve (hordered : router.IsOrdered) (path : String) :
    LeadsTo router.routes path (router.resolve path) := by
  cases hspelled : router.find? path with
  | some route =>
      obtain ⟨hmem, htext⟩ := hordered.find?_eq_some_iff.mp hspelled
      simpa [resolve, hspelled] using LeadsTo.spelled hmem htext
  | none =>
      have hunspelled := find?_eq_none_iff.mp hspelled
      cases hfound : router.templated.find? (·.accepts path) with
      | some route =>
          have haccepts : route.accepts path = true := by simpa using List.find?_some hfound
          have hmem := List.mem_of_find?_eq_some hfound
          have hfirst : ∀ other ∈ router.routes, other.Fits path →
              route.rank ≤ other.rank := by
            intro other hother hfits
            exact hordered.rank_le_of_find? hfound hother (Route.accepts_iff_fits.mpr hfits)
          simpa [resolve, hspelled, hfound] using
            LeadsTo.template hunspelled (hordered.mem_templated_iff.mp hmem).1
              (Route.accepts_iff_fits.mp haccepts) hfirst
      | none =>
          have hunfit : ∀ other ∈ router.routes, ¬other.Fits path := by
            intro other hother hfits
            have haccepts := Route.accepts_iff_fits.mpr hfits
            have htemplated := hordered.mem_templated_iff.mpr
              ⟨hother, Route.isTemplated_of_accepts haccepts⟩
            exact List.find?_eq_none.mp hfound other htemplated haccepts
          simpa [resolve, hspelled, hfound] using LeadsTo.nothing hunspelled hunfit

theorem IsOrdered.resolve_eq_iff (hordered : router.IsOrdered)
    {answer : Except Failure Route} :
    router.resolve path = answer ↔ LeadsTo router.routes path answer := by
  constructor
  · rintro rfl
    exact hordered.leadsTo_resolve path
  · exact (hordered.leadsTo_resolve path).unique hordered.nodup

end Router

namespace Router

variable {router : Router} {paths : List (String × PathItem)} {path : String}

/-- What is mine of any kind, one pet, and all pets. -/
def petPaths : List (String × PathItem) :=
  [("/{kind}/mine", {}), ("/pets/{id}", {}), ("/pets/all", {})]

/-- The template of one pet. -/
def petRoute : Route where
  text := "/pets/{id}"
  item := {}

theorem isUsable_petPaths : ∀ route ∈ routesOf petPaths, route.isUsable = true := by
  intro route hroute
  simp only [routesOf, petPaths, List.map_cons, List.map_nil, List.mem_cons,
    List.not_mem_nil, or_false] at hroute
  rcases hroute with rfl | rfl | rfl <;> decide +kernel

/-- The path of what is mine among pets fits two templates, and that of one pet has more
literal text in front. -/
theorem leadsTo_petRoute : LeadsTo (routesOf petPaths) "/pets/mine" (.ok petRoute) := by
  refine .template ?_ (by simp [routesOf, petPaths, petRoute]) ?_ ?_
  · simp [routesOf, petPaths]
  · exact Route.accepts_iff_fits.mp (by decide +kernel)
  · intro other hother hfits
    simp only [routesOf, petPaths, List.map_cons, List.map_nil, List.mem_cons,
      List.not_mem_nil, or_false] at hother
    rcases hother with rfl | rfl | rfl
    · exact Route.precedes_iff_rank_le.mp (by decide +kernel)
    · exact le_refl _
    · exact absurd (by decide +kernel) hfits.1

end Router
end ApiContract
