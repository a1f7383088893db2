import ApiContract.Proofs.Document.Cycles
import ApiContract.Proofs.Text.Lookup
import Mathlib.Data.List.Sort
import Mathlib.Data.String.Basic

/-!
# The search for cycles is exact

`Components.cycle?` bounds its depth by the number of components.  `Components.Visits` is
the same search without a bound, as a relation: it comes to an end for all components,
with one outcome, which is that of `Components.cycle?`.

The search finds a cycle exactly where the graph of `Components.Edge` has one.  The
components being visited form a path through the graph, so that a component which is
reached again while it is being visited lies on a cycle; which one is found depends on the
graph and the order of names alone.
-/

namespace ApiContract
namespace Components

variable {components components' : Components} {fuel : Nat} {path done names : List String}
  {name cycle : String} {schema : Schema} {walk : Walk}

/-! ## The search without a bound -/

mutual
/-- What comes of a visit.  `path` holds the components being visited, `done` those that
are finished. -/
inductive Visits (components : Components) :
    (path done : List String) → (name : String) → Walk → Prop
  | finished {path done : List String} {name : String} :
      name ∈ done → Visits components path done name (.ok done)
  | again {path done : List String} {name : String} :
      name ∉ done → name ∈ path → Visits components path done name (.error name)
  | dangling {path done : List String} {name : String} :
      name ∉ done → name ∉ path → components.schemas.lookup name = none →
      Visits components path done name (.ok done)
  | finishes {path done done' : List String} {name : String} {schema : Schema} :
      name ∉ done → name ∉ path → components.schemas.lookup name = some schema →
      VisitsAll components (name :: path) done schema.sameValueRefs (.ok done') →
      Visits components path done name (.ok (name :: done'))
  | fails {path done : List String} {name cycle : String} {schema : Schema} :
      name ∉ done → name ∉ path → components.schemas.lookup name = some schema →
      VisitsAll components (name :: path) done schema.sameValueRefs (.error cycle) →
      Visits components path done name (.error cycle)

/-- What comes of visits one after the other, of which the first that fails is the
last. -/
inductive VisitsAll (components : Components) :
    (path done names : List String) → Walk → Prop
  | nil {path done : List String} : VisitsAll components path done [] (.ok done)
  | cons {path done between names : List String} {name : String} {walk : Walk} :
      Visits components path done name (.ok between) →
      VisitsAll components path between names walk →
      VisitsAll components path done (name :: names) walk
  | fails {path done names : List String} {name cycle : String} :
      Visits components path done name (.error cycle) →
      VisitsAll components path done (name :: names) (.error cycle)
end

/-- Where the visits of single components have one outcome each, so have visits one after
the other. -/
theorem visitsAll_iff_of_visits {visitOne : List String → String → Walk}
    (hvisit : ∀ done name walk,
      components.Visits path done name walk ↔ visitOne done name = walk) :
    components.VisitsAll path done names walk ↔ names.foldlM visitOne done = walk := by
  induction names generalizing done with
  | nil =>
      constructor
      · rintro ⟨⟩
        rfl
      · rintro rfl
        exact .nil
  | cons name names ih =>
      rw [List.foldlM_cons]
      cases hname : visitOne done name with
      | error cycle =>
          have herror := (hvisit done name _).mpr hname
          constructor
          · rintro (_ | hok | hfails)
            · cases hname.symm.trans ((hvisit _ _ _).mp hok)
            · cases hname.symm.trans ((hvisit _ _ _).mp hfails)
              rfl
          · rintro rfl
            exact .fails herror
      | ok between =>
          have hfirst := (hvisit done name _).mpr hname
          constructor
          · rintro (_ | ⟨hok, hrest⟩ | hfails)
            · cases hname.symm.trans ((hvisit _ _ _).mp hok)
              exact ih.mp hrest
            · cases hname.symm.trans ((hvisit _ _ _).mp hfails)
          · intro hrest
            exact .cons hfirst (ih.mpr hrest)

/-! ### One visit -/

theorem visit_of_finished (hdone : name ∈ done) :
    visit components (fuel + 1) path done name = .ok done := by
  simp [visit, hdone]

theorem visit_of_again (hnew : name ∉ done) (hpath : name ∈ path) :
    visit components (fuel + 1) path done name = .error name := by
  simp [visit, hnew, hpath]

theorem visit_of_dangling (hnew : name ∉ done) (hpath : name ∉ path)
    (hlookup : components.schemas.lookup name = none) :
    visit components (fuel + 1) path done name = .ok done := by
  simp [visit, hnew, hpath, hlookup]

theorem visit_of_declared (hnew : name ∉ done) (hpath : name ∉ path)
    (hlookup : components.schemas.lookup name = some schema) :
    visit components (fuel + 1) path done name =
      (schema.sameValueRefs.foldlM (visit components fuel (name :: path)) done).map
        (name :: ·) := by
  simp [visit, hnew, hpath, hlookup]

/-- The search with enough fuel is the search without a bound.  The induction is on the
fuel, of which `InPath` says that it never runs out. -/
theorem visits_iff (hinpath : components.InPath fuel path) :
    components.Visits path done name walk ↔ visit components fuel path done name = walk := by
  induction fuel generalizing path done name walk with
  | zero => exact absurd rfl hinpath.fuel_ne_zero
  | succ fuel ih =>
      by_cases hdone : name ∈ done
      · rw [visit_of_finished hdone]
        constructor
        · intro h
          cases h with
          | finished => rfl
          | again hnew => exact absurd hdone hnew
          | dangling hnew => exact absurd hdone hnew
          | finishes hnew => exact absurd hdone hnew
          | fails hnew => exact absurd hdone hnew
        · rintro rfl
          exact .finished hdone
      by_cases hpath : name ∈ path
      · rw [visit_of_again hdone hpath]
        constructor
        · intro h
          cases h with
          | finished hmem => exact absurd hmem hdone
          | again => rfl
          | dangling _ hout => exact absurd hpath hout
          | finishes _ hout => exact absurd hpath hout
          | fails _ hout => exact absurd hpath hout
        · rintro rfl
          exact .again hdone hpath
      cases hlookup : components.schemas.lookup name with
      | none =>
          rw [visit_of_dangling hdone hpath hlookup]
          constructor
          · intro h
            cases h with
            | finished => rfl
            | again _ hmem => exact absurd hmem hpath
            | dangling => rfl
            | finishes _ _ hfound => cases hlookup.symm.trans hfound
            | fails _ _ hfound => cases hlookup.symm.trans hfound
          · rintro rfl
            exact .dangling hdone hpath hlookup
      | some schema =>
          have hlonger := hinpath.cons hpath (mem_names_iff.mpr ⟨schema, hlookup⟩)
          have hall {walk : Walk} := @visitsAll_iff_of_visits components (name :: path) done
            schema.sameValueRefs walk _ fun _ _ _ => ih hlonger
          rw [visit_of_declared hdone hpath hlookup]
          constructor
          · intro h
            cases h with
            | finished hmem => exact absurd hmem hdone
            | again _ hmem => exact absurd hmem hpath
            | dangling _ _ hnone => cases hlookup.symm.trans hnone
            | finishes _ _ hfound hbelow =>
                obtain rfl := Option.some.inj (hlookup.symm.trans hfound)
                rw [hall.mp hbelow]
                rfl
            | fails _ _ hfound hbelow =>
                obtain rfl := Option.some.inj (hlookup.symm.trans hfound)
                rw [hall.mp hbelow]
                rfl
          · rintro rfl
            cases hbelow : schema.sameValueRefs.foldlM
                (visit components fuel (name :: path)) done with
            | error cycle => exact .fails hdone hpath hlookup (hall.mpr hbelow)
            | ok done' => exact .finishes hdone hpath hlookup (hall.mpr hbelow)

theorem inPath_nil (components : Components) :
    components.InPath (components.schemas.length + 1) [] :=
  ⟨List.nodup_nil, List.nil_subset _, by simp⟩

/-- The search through all components comes to an end, with one outcome. -/
theorem visitsAll_sortedNames_iff :
    components.VisitsAll [] [] components.sortedNames walk ↔
      components.sortedNames.foldlM
        (visit components (components.schemas.length + 1) []) [] = walk :=
  visitsAll_iff_of_visits fun _ _ _ => visits_iff components.inPath_nil

theorem cycle?_eq_some_iff :
    components.cycle? = some cycle ↔
      components.VisitsAll [] [] components.sortedNames (.error cycle) := by
  rw [visitsAll_sortedNames_iff, cycle?]
  cases components.sortedNames.foldlM
    (visit components (components.schemas.length + 1) []) [] <;> simp

/-! ## A cycle that is found -/

/-- Components of which each one has an edge to the one in front of it. -/
def IsTrail (components : Components) (path : List String) : Prop :=
  path.IsChain fun target source => components.Edge source target

/-- All components of a trail lead to its first one. -/
theorem IsTrail.transGen (h : components.IsTrail (name :: path)) (hmem : cycle ∈ path) :
    Relation.TransGen components.Edge cycle name := by
  induction path generalizing name with
  | nil => cases hmem
  | cons source path ih =>
      obtain ⟨hedge, hrest⟩ := List.isChain_cons_cons.mp h
      rcases List.mem_cons.mp hmem with rfl | hmem
      · exact .single hedge
      · exact (ih hrest hmem).tail hedge

theorem exists_of_foldlM_eq_error {visitOne : List String → String → Walk}
    (h : names.foldlM visitOne done = .error cycle) :
    ∃ name ∈ names, ∃ between, visitOne between name = .error cycle := by
  induction names generalizing done with
  | nil => cases h
  | cons name names ih =>
      rw [List.foldlM_cons] at h
      cases hname : visitOne done name with
      | error found =>
          rw [hname] at h
          cases h
          exact ⟨name, List.mem_cons_self, done, hname⟩
      | ok between =>
          rw [hname] at h
          obtain ⟨other, hmem, later, hother⟩ := ih h
          exact ⟨other, List.mem_cons_of_mem _ hmem, later, hother⟩

/-- A visit along a trail fails only at a component that reaches itself. -/
theorem transGen_self_of_visit (hdeclared : path ⊆ components.schemas.map (·.1))
    (htrail : name ∈ components.schemas.map (·.1) → components.IsTrail (name :: path))
    (h : visit components fuel path done name = .error cycle) :
    Relation.TransGen components.Edge cycle cycle := by
  induction fuel generalizing path done name with
  | zero => cases h
  | succ fuel ih =>
      by_cases hdone : name ∈ done
      · rw [visit_of_finished hdone] at h
        cases h
      by_cases hpath : name ∈ path
      · rw [visit_of_again hdone hpath] at h
        cases h
        exact (htrail (hdeclared hpath)).transGen hpath
      cases hlookup : components.schemas.lookup name with
      | none =>
          rw [visit_of_dangling hdone hpath hlookup] at h
          cases h
      | some schema =>
          have hname : name ∈ components.schemas.map (·.1) := mem_names_iff.mpr ⟨schema, hlookup⟩
          rw [visit_of_declared hdone hpath hlookup] at h
          cases hbelow : schema.sameValueRefs.foldlM
              (visit components fuel (name :: path)) done with
          | ok done' =>
              rw [hbelow] at h
              cases h
          | error found =>
              rw [hbelow] at h
              cases h
              obtain ⟨target, htarget, between, hvisit⟩ := exists_of_foldlM_eq_error hbelow
              refine ih (List.cons_subset.mpr ⟨hname, hdeclared⟩) ?_ hvisit
              intro hmem
              exact List.isChain_cons_cons.mpr ⟨⟨schema, hlookup, htarget, hmem⟩, htrail hname⟩

/-- A component that the search finds reaches itself. -/
theorem transGen_self_of_cycle?_eq_some (h : components.cycle? = some cycle) :
    Relation.TransGen components.Edge cycle cycle := by
  rw [cycle?_eq_some_iff, visitsAll_sortedNames_iff] at h
  obtain ⟨name, -, between, hvisit⟩ := exists_of_foldlM_eq_error h
  exact transGen_self_of_visit (List.nil_subset _) (fun _ => .singleton _) hvisit

/-! ## Orders of components -/

theorem lookup_eq_of_perm (hperm : components'.schemas.Perm components.schemas)
    (hkeys : (components.schemas.map (·.1)).Nodup) (name : String) :
    components'.schemas.lookup name = components.schemas.lookup name := by
  have hkeys' := (hperm.map (·.1)).nodup_iff.mpr hkeys
  apply Option.ext
  intro schema
  rw [lookup_eq_some_iff_mem hkeys', lookup_eq_some_iff_mem hkeys, hperm.mem_iff]

theorem sortedNames_eq_of_perm (hperm : components'.schemas.Perm components.schemas) :
    components'.sortedNames = components.sortedNames := by
  have hsorted (components : Components) : components.sortedNames.Pairwise (· ≤ ·) :=
    List.pairwise_mergeSort' (· ≤ ·) _
  apply List.Perm.eq_of_pairwise _ (hsorted components') (hsorted components)
  · exact ((List.mergeSort_perm _ _).trans (hperm.map _)).trans (List.mergeSort_perm _ _).symm
  · intro a b _ _ hab hba
    exact le_antisymm hab hba

/-- A visit depends on what the names stand for. -/
theorem visit_congr
    (hlookup : ∀ name, components'.schemas.lookup name = components.schemas.lookup name) :
    visit components' fuel path done name = visit components fuel path done name := by
  induction fuel generalizing path done name with
  | zero => rfl
  | succ fuel ih =>
      have hbelow (path : List String) :
          visit components' fuel path = visit components fuel path := by
        funext done name
        exact ih
      rw [visit, visit, hlookup, hbelow]

/-- However the components are ordered, the search has one outcome. -/
theorem cycle?_eq_of_perm (hperm : components'.schemas.Perm components.schemas)
    (hkeys : (components.schemas.map (·.1)).Nodup) : components'.cycle? = components.cycle? := by
  have hvisit : visit components' (components.schemas.length + 1) [] =
      visit components (components.schemas.length + 1) [] := by
    funext done name
    exact visit_congr (lookup_eq_of_perm hperm hkeys)
  rw [cycle?, cycle?, sortedNames_eq_of_perm hperm, hperm.length_eq, hvisit]

/-! ## Exactness -/

/-- The search comes to an end with one outcome, and `cycle?` is the component that it
stops at.  It stops at none exactly if no component reaches itself, and otherwise at one
that does, whichever the order of the components is. -/
theorem cycle?_exact (components : Components) :
    (∃! walk, components.VisitsAll [] [] components.sortedNames walk) ∧
      (∀ name, components.cycle? = some name ↔
        components.VisitsAll [] [] components.sortedNames (.error name)) ∧
      (components.cycle? = none ↔
        ∀ name, ¬Relation.TransGen components.Edge name name) ∧
      (∀ name, components.cycle? = some name →
        Relation.TransGen components.Edge name name) ∧
      ∀ components' : Components, components'.schemas.Perm components.schemas →
        (components.schemas.map (·.1)).Nodup → components'.cycle? = components.cycle? := by
  refine ⟨?_, fun _ => cycle?_eq_some_iff, ⟨?_, ?_⟩, ?_, ?_⟩
  · refine ⟨_, visitsAll_sortedNames_iff.mpr rfl, ?_⟩
    intro walk hwalk
    exact (visitsAll_sortedNames_iff.mp hwalk).symm
  · exact not_transGen_self_of_cycle?_eq_none
  · intro hacyclic
    rw [Option.eq_none_iff_forall_ne_some]
    intro name hcycle
    exact hacyclic name (transGen_self_of_cycle?_eq_some hcycle)
  · intro name hcycle
    exact transGen_self_of_cycle?_eq_some hcycle
  · intro components' hperm hkeys
    exact cycle?_eq_of_perm hperm hkeys

/-! ### Two components that extend each other -/

/-- Cats are pets, pets are cats and birds, and birds are not described. -/
def circularPets : Components where
  schemas := [
    ("Pet", { allOf := some [{ ref := some "Cat" }, { ref := some "Bird" }] }),
    ("Cat", { ref := some "#/components/schemas/Pet" }),
    ("Dog", { allOf := some [{ ref := some "Pet" }] })]

theorem cycle?_circularPets : circularPets.cycle? = some "Cat" := by
  have hsorted : circularPets.sortedNames = ["Cat", "Dog", "Pet"] := by
    rw [sortedNames, List.mergeSort_eq_insertionSort]
    decide +kernel
  rw [cycle?, hsorted]
  decide +kernel

/-- Cats are found, which lead to pets and back, also where dogs come first. -/
theorem cycle?_exact_circularPets :
    Relation.TransGen circularPets.Edge "Cat" "Cat" ∧
      ¬(∀ name, ¬Relation.TransGen circularPets.Edge name name) ∧
      Components.cycle? { schemas := circularPets.schemas.reverse } = some "Cat" := by
  obtain ⟨-, -, hnone, hcycle, horder⟩ := cycle?_exact circularPets
  refine ⟨hcycle "Cat" cycle?_circularPets, ?_, ?_⟩
  · intro hacyclic
    cases (hnone.mpr hacyclic).symm.trans cycle?_circularPets
  · exact (horder _ (List.reverse_perm _) (by decide)).trans cycle?_circularPets

end Components
end ApiContract
