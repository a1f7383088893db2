import ApiContract.Document.Cycles
import Mathlib.Data.List.Chain
import Mathlib.Data.List.Perm.Subperm

/-!
# Acyclic components

The components form a graph, with an edge where a component applies another one to its
own value.  The walk of `Components.cycle?` lists the components that it has finished,
and each stands in front of all components that it leads to.  So when the walk finds no
cycle, there is none, and a path through the graph repeats no component.
-/

namespace ApiContract
namespace Components

variable {components : Components}

/-! ## The graph -/

/-- A name that stands for a component. -/
theorem mem_names_iff {name : String} :
    name ∈ components.schemas.map (·.1) ↔
      ∃ schema, components.schemas.lookup name = some schema := by
  rw [← Option.isSome_iff_exists, List.lookup_isSome_iff, List.mem_map]
  simp only [beq_iff_eq]
  exact exists_congr fun _ => and_congr_right fun _ => eq_comm

/-- A component applies another one to the value that it is applied to. -/
def Edge (components : Components) (source target : String) : Prop :=
  ∃ schema, components.schemas.lookup source = some schema ∧
    target ∈ schema.sameValueRefs ∧ target ∈ components.schemas.map (·.1)

/-! ## Finished components -/

/-- In a list of finished components, every component stands in front of those that it
leads to. -/
def Finished (components : Components) : List String → Prop
  | [] => True
  | name :: done =>
      (∀ target, components.Edge name target → target ∈ done) ∧ components.Finished done

/-- Finished components lead to finished components only. -/
theorem Finished.mem_of_transGen {done : List String} {source target : String}
    (h : components.Finished done) (hsource : source ∈ done)
    (hreaches : Relation.TransGen components.Edge source target) :
    target ∈ done := by
  induction done generalizing source with
  | nil => cases hsource
  | cons name done ih =>
      obtain ⟨hname, hdone⟩ := h
      have hlater {next : String} (hnext : next ∈ done)
          (hreaches : Relation.ReflTransGen components.Edge next target) :
          target ∈ name :: done := by
        rcases Relation.reflTransGen_iff_eq_or_transGen.mp hreaches with rfl | hreaches
        · exact List.mem_cons_of_mem _ hnext
        · exact List.mem_cons_of_mem _ (ih hdone hnext hreaches)
      rcases List.mem_cons.mp hsource with rfl | hsource
      · obtain ⟨next, hedge, hreaches⟩ := Relation.TransGen.head'_iff.mp hreaches
        exact hlater (hname next hedge) hreaches
      · exact List.mem_cons_of_mem _ (ih hdone hsource hreaches)

/-- No finished component reaches itself. -/
theorem Finished.not_transGen_self {done : List String} {name : String}
    (h : components.Finished done) (hmem : name ∈ done) :
    ¬Relation.TransGen components.Edge name name := by
  induction done with
  | nil => cases hmem
  | cons first done ih =>
      obtain ⟨hfirst, hdone⟩ := h
      intro hcycle
      have hlater : name ∈ done := by
        rcases List.mem_cons.mp hmem with rfl | hlater
        · obtain ⟨next, hedge, hreaches⟩ := Relation.TransGen.head'_iff.mp hcycle
          rcases Relation.reflTransGen_iff_eq_or_transGen.mp hreaches with rfl | hreaches
          · exact hfirst _ hedge
          · exact hdone.mem_of_transGen (hfirst next hedge) hreaches
        · exact hlater
      exact ih hdone hlater hcycle

/-! ## The walk -/

/-- What a part of the walk has done after visiting `names`. -/
structure Walked (components : Components) (done names done' : List String) : Prop where
  finished : components.Finished done'
  kept : done ⊆ done'
  reached : ∀ name ∈ names, name ∈ components.schemas.map (·.1) → name ∈ done'

/-- Visits one after the other do together what each of them does. -/
theorem walked_of_foldlM {visitOne : List String → String → Walk}
    (hvisit : ∀ {done name done'}, components.Finished done →
      visitOne done name = .ok done' → components.Walked done [name] done')
    {done names done' : List String} (hdone : components.Finished done)
    (h : names.foldlM visitOne done = .ok done') :
    components.Walked done names done' := by
  induction names generalizing done with
  | nil =>
      obtain rfl : done = done' := Except.ok.inj h
      exact ⟨hdone, List.Subset.refl _, by simp⟩
  | cons name names ih =>
      rw [List.foldlM_cons] at h
      cases hname : visitOne done name with
      | error cycle => rw [hname] at h; cases h
      | ok between =>
          rw [hname] at h
          have hfirst := hvisit hdone hname
          have hrest := ih hfirst.finished h
          refine ⟨hrest.finished, List.Subset.trans hfirst.kept hrest.kept, ?_⟩
          intro other hmem hdeclared
          rcases List.mem_cons.mp hmem with rfl | hmem
          · exact hrest.kept (hfirst.reached other (by simp) hdeclared)
          · exact hrest.reached other hmem hdeclared

/-- The components being visited are different ones, and with every one of them the walk
has less fuel.  So it never runs out of it. -/
structure InPath (components : Components) (fuel : Nat) (path : List String) : Prop where
  nodup : path.Nodup
  declared : path ⊆ components.schemas.map (·.1)
  fuel_enough : components.schemas.length < path.length + fuel

theorem InPath.fuel_ne_zero {fuel : Nat} {path : List String}
    (h : components.InPath fuel path) : fuel ≠ 0 := by
  have hlength := (List.subperm_of_subset h.nodup h.declared).length_le
  have henough := h.fuel_enough
  rw [List.length_map] at hlength
  omega

theorem InPath.cons {fuel : Nat} {path : List String} {name : String}
    (h : components.InPath (fuel + 1) path) (hnew : name ∉ path)
    (hdeclared : name ∈ components.schemas.map (·.1)) :
    components.InPath fuel (name :: path) := by
  refine ⟨List.nodup_cons.mpr ⟨hnew, h.nodup⟩, List.cons_subset.mpr ⟨hdeclared, h.declared⟩, ?_⟩
  have henough := h.fuel_enough
  rw [List.length_cons]
  omega

/-- A visit may stop at a name that is finished or that no component has. -/
theorem Walked.of_mem {done : List String} {name : String}
    (hdone : components.Finished done)
    (h : name ∈ components.schemas.map (·.1) → name ∈ done) :
    components.Walked done [name] done := by
  refine ⟨hdone, List.Subset.refl _, ?_⟩
  intro other hother hdeclared
  obtain rfl := List.mem_singleton.mp hother
  exact h hdeclared

/-- A component is finished after all that it refers to. -/
theorem Walked.finish {done done' : List String} {name : String} {schema : Schema}
    (hlookup : components.schemas.lookup name = some schema)
    (h : components.Walked done schema.sameValueRefs done') :
    components.Walked done [name] (name :: done') := by
  refine ⟨⟨?_, h.finished⟩, List.Subset.trans h.kept (List.subset_cons_self _ _), by simp⟩
  rintro target ⟨schema', hlookup', htarget, hdeclared⟩
  obtain rfl : schema = schema' := Option.some.inj (hlookup.symm.trans hlookup')
  exact h.reached target htarget hdeclared

/-- A visit that finds no cycle finishes the component and all that it leads to. -/
theorem visit_walked {fuel : Nat} {path done done' : List String} {name : String}
    (hpath : components.InPath fuel path) (hdone : components.Finished done)
    (h : visit components fuel path done name = .ok done') :
    components.Walked done [name] done' := by
  induction fuel generalizing path done name done' with
  | zero => exact absurd rfl hpath.fuel_ne_zero
  | succ fuel ih =>
      rw [visit] at h
      split at h
      · next hfinished =>
          obtain rfl : done = done' := Except.ok.inj h
          exact .of_mem hdone fun _ => by simpa using hfinished
      · split at h
        · cases h
        · next hnew =>
          cases hlookup : components.schemas.lookup name with
          | none =>
              rw [hlookup] at h
              obtain rfl : done = done' := Except.ok.inj h
              refine .of_mem hdone fun hdeclared => ?_
              obtain ⟨schema, hschema⟩ := mem_names_iff.mp hdeclared
              simp [hlookup] at hschema
          | some schema =>
              simp only [hlookup] at h
              have hlonger := hpath.cons (by simpa using hnew)
                (mem_names_iff.mpr ⟨schema, hlookup⟩)
              cases htargets :
                  schema.sameValueRefs.foldlM (visit components fuel (name :: path)) done with
              | error cycle => rw [htargets] at h; cases h
              | ok below =>
                  rw [htargets] at h
                  obtain rfl : name :: below = done' := Except.ok.inj h
                  exact .finish hlookup (walked_of_foldlM (ih hlonger) hdone htargets)

/-- When no cycle is found, the walk has finished every component. -/
theorem exists_finished_of_cycle?_eq_none (h : components.cycle? = none) :
    ∃ done, components.Finished done ∧ components.schemas.map (·.1) ⊆ done := by
  have hstart : components.InPath (components.schemas.length + 1) [] :=
    ⟨List.nodup_nil, List.nil_subset _, by simp⟩
  cases hwalk : components.sortedNames.foldlM
      (visit components (components.schemas.length + 1) []) [] with
  | error cycle => simp [cycle?, hwalk] at h
  | ok done =>
      have hwalked := walked_of_foldlM (visit_walked hstart) (by trivial) hwalk
      refine ⟨done, hwalked.finished, ?_⟩
      intro name hname
      exact hwalked.reached name (List.mem_mergeSort.mpr hname) hname

/-- When no cycle is found, no component reaches itself. -/
theorem not_transGen_self_of_cycle?_eq_none (h : components.cycle? = none) (name : String) :
    ¬Relation.TransGen components.Edge name name := by
  obtain ⟨done, hdone, hall⟩ := exists_finished_of_cycle?_eq_none h
  intro hcycle
  obtain ⟨next, ⟨schema, hlookup, -, -⟩, -⟩ := Relation.TransGen.head'_iff.mp hcycle
  exact hdone.not_transGen_self (hall (mem_names_iff.mpr ⟨schema, hlookup⟩)) hcycle

/-- When no cycle is found, a path through the graph has no component twice. -/
theorem nodup_of_isChain (h : components.cycle? = none) {names : List String}
    (hchain : names.IsChain components.Edge) : names.Nodup := by
  have hreaches : names.IsChain (Relation.TransGen components.Edge) :=
    hchain.imp fun _ _ => Relation.TransGen.single
  refine (List.isChain_iff_pairwise.mp hreaches).imp ?_
  rintro source target hreaches rfl
  exact not_transGen_self_of_cycle?_eq_none h source hreaches

end Components
end ApiContract
