import ApiContract.Contract.Parameters
import ApiContract.Proofs.Contract.InTurn
import Mathlib.Data.List.Induction
import Mathlib.Data.List.Nodup

/-!
# Merged parameters

The parameters of a request are declared on its path and on its operation, and are known
by their location and name.  `Parameter.Merges` says what merging is to give: every key
once, in the order of the first declarations, and with what the last declaration says.
There is one such list for any declarations, so that what a path says of a parameter that
the operation declares again can make no difference.
-/

namespace ApiContract
namespace Parameter

variable {p q : Parameter} {declared merged merged' others : List Parameter}

/-! ## Keys -/

/-- What a parameter is known by. -/
def key (parameter : Parameter) : Location × String :=
  (parameter.location, parameter.name)

theorem isSame_eq_true_iff : p.isSame q = true ↔ p.key = q.key := by
  simp [isSame, key]

/-- A parameter is put where its key is, or at the end if it is new. -/
theorem map_key_put (p : Parameter) (merged : List Parameter) :
    (p.put merged).map key =
      if p.key ∈ merged.map key then merged.map key else merged.map key ++ [p.key] := by
  induction merged with
  | nil => simp [put]
  | cons first merged ih =>
      by_cases hfirst : first.key = p.key
      · simp [put, isSame_eq_true_iff.mpr hfirst, hfirst]
      · have hother : ¬first.isSame p = true := mt isSame_eq_true_iff.mp hfirst
        rw [put, if_neg hother, List.map_cons, List.map_cons, ih]
        by_cases hmem : p.key ∈ merged.map key
        · rw [if_pos hmem, if_pos (List.mem_cons_of_mem _ hmem)]
        · have hnew : p.key ∉ first.key :: merged.map key := by
            simp only [List.mem_cons, not_or]
            exact ⟨Ne.symm hfirst, hmem⟩
          rw [if_neg hmem, if_neg hnew, List.cons_append]

/-- Beside the parameter itself there are the former ones with other keys. -/
theorem mem_put (hkeys : (merged.map key).Nodup) (h : q ∈ p.put merged) :
    q = p ∨ q ∈ merged ∧ q.key ≠ p.key := by
  induction merged with
  | nil => exact Or.inl (List.mem_singleton.mp h)
  | cons first merged ih =>
      obtain ⟨hfresh, hrest⟩ := List.nodup_cons.mp hkeys
      by_cases hfirst : first.key = p.key
      · rw [put, if_pos (isSame_eq_true_iff.mpr hfirst)] at h
        rcases List.mem_cons.mp h with rfl | hmem
        · exact Or.inl rfl
        · refine Or.inr ⟨List.mem_cons_of_mem _ hmem, fun hsame => hfresh ?_⟩
          rw [hfirst, ← hsame]
          exact List.mem_map_of_mem hmem
      · rw [put, if_neg (mt isSame_eq_true_iff.mp hfirst)] at h
        rcases List.mem_cons.mp h with rfl | hmem
        · exact Or.inr ⟨List.mem_cons_self, hfirst⟩
        · rcases ih hrest hmem with rfl | ⟨hold, hother⟩
          · exact Or.inl rfl
          · exact Or.inr ⟨List.mem_cons_of_mem _ hold, hother⟩

/-! ## The last declaration of a key -/

/-- A parameter is declared, and no parameter with its key is declared after it. -/
def IsLast (declared : List Parameter) (p : Parameter) : Prop :=
  ∃ before after, declared = before ++ p :: after ∧ ∀ q ∈ after, q.key ≠ p.key

theorem isLast_cons :
    IsLast (q :: declared) p ↔ (q = p ∧ ∀ later ∈ declared, later.key ≠ p.key) ∨
      IsLast declared p := by
  constructor
  · rintro ⟨before, after, hdeclared, hafter⟩
    rcases List.cons_eq_append_iff.mp hdeclared with ⟨-, hsame⟩ | ⟨before, -, rfl⟩
    · obtain ⟨rfl, rfl⟩ := List.cons.inj hsame
      exact Or.inl ⟨rfl, hafter⟩
    · exact Or.inr ⟨before, after, rfl, hafter⟩
  · rintro (⟨rfl, hafter⟩ | ⟨before, after, rfl, hafter⟩)
    · exact ⟨[], declared, rfl, hafter⟩
    · exact ⟨q :: before, after, rfl, hafter⟩

theorem IsLast.mem (h : IsLast declared p) : p ∈ declared := by
  obtain ⟨before, after, rfl, -⟩ := h
  simp

/-- A key has one last declaration. -/
theorem IsLast.unique (hp : IsLast declared p) (hq : IsLast declared q)
    (hkey : p.key = q.key) : p = q := by
  induction declared with
  | nil => cases hp.mem
  | cons first declared ih =>
      rcases isLast_cons.mp hp with ⟨rfl, hafter⟩ | hp
      · rcases isLast_cons.mp hq with ⟨rfl, -⟩ | hq
        · rfl
        · exact absurd hkey.symm (hafter q hq.mem)
      · rcases isLast_cons.mp hq with ⟨rfl, hafter⟩ | hq
        · exact absurd hkey (hafter p hp.mem)
        · exact ih hp hq

theorem isLast_append_singleton (h : IsLast declared p) (hkey : p.key ≠ q.key) :
    IsLast (declared ++ [q]) p := by
  obtain ⟨before, after, rfl, hafter⟩ := h
  refine ⟨before, after ++ [q], by simp, ?_⟩
  exact List.forall_mem_append.mpr ⟨hafter, by simpa using Ne.symm hkey⟩

/-! ## What merging gives -/

/-- The merged parameters have the declared keys, each once and in the order of the first
declarations, and are the last declarations of their keys. -/
structure Merges (declared merged : List Parameter) : Prop where
  nodup : (merged.map key).Nodup
  mem_keys : ∀ k, k ∈ merged.map key ↔ k ∈ declared.map key
  ordered : (merged.map key).Pairwise fun a b =>
    (declared.map key).idxOf a < (declared.map key).idxOf b
  isLast : ∀ p ∈ merged, IsLast declared p

/-- Putting in one more parameter. -/
theorem Merges.put (h : Merges declared merged) (p : Parameter) :
    Merges (declared ++ [p]) (p.put merged) := by
  have hkeys : (p.put merged).map key =
      if p.key ∈ declared.map key then merged.map key else merged.map key ++ [p.key] := by
    rw [map_key_put]
    simp only [h.mem_keys]
  have hfirst {k : Location × String} (hk : k ∈ merged.map key) :
      ((declared ++ [p]).map key).idxOf k = (declared.map key).idxOf k := by
    rw [List.map_append, List.idxOf_append_of_mem ((h.mem_keys k).mp hk)]
  have hordered : (merged.map key).Pairwise fun a b =>
      ((declared ++ [p]).map key).idxOf a < ((declared ++ [p]).map key).idxOf b :=
    h.ordered.imp_of_mem fun ha hb hlt => by rwa [hfirst ha, hfirst hb]
  have hisLast : ∀ q ∈ p.put merged, IsLast (declared ++ [p]) q := by
    intro q hq
    rcases mem_put h.nodup hq with rfl | ⟨hold, hother⟩
    · exact ⟨declared, [], rfl, by simp⟩
    · exact isLast_append_singleton (h.isLast q hold) hother
  -- a known key stays where it is, and a new one comes after all others
  by_cases hold : p.key ∈ declared.map key
  · rw [if_pos hold] at hkeys
    refine ⟨hkeys ▸ h.nodup, fun k => ?_, hkeys ▸ hordered, hisLast⟩
    rw [hkeys, h.mem_keys, List.map_append, List.mem_append, List.map_singleton,
      List.mem_singleton]
    exact ⟨Or.inl, fun hk => hk.elim id fun hsame => hsame ▸ hold⟩
  · rw [if_neg hold] at hkeys
    have hnew : p.key ∉ merged.map key := mt (h.mem_keys p.key).mp hold
    have hend : ((declared ++ [p]).map key).idxOf p.key = declared.length := by
      rw [List.map_append, List.idxOf_append_of_notMem hold]
      simp
    refine ⟨?_, ?_, ?_, hisLast⟩
    · rw [hkeys, ← List.concat_eq_append]
      exact List.Nodup.concat hnew h.nodup
    · intro k
      rw [hkeys, List.map_append, List.mem_append, List.mem_append, h.mem_keys,
        List.map_singleton]
    · rw [hkeys, List.pairwise_append]
      refine ⟨hordered, List.pairwise_singleton _ _, ?_⟩
      intro k hk other hother
      obtain rfl := List.mem_singleton.mp hother
      rw [hend, hfirst hk, ← List.length_map key]
      exact List.idxOf_lt_length_of_mem ((h.mem_keys k).mp hk)

/-- Putting in one parameter after the other merges them. -/
theorem merges_foldl_put (declared : List Parameter) :
    Merges declared (declared.foldl (fun merged p => p.put merged) []) := by
  -- from the end, where the declaration stands that is put in last
  induction declared using List.reverseRecOn with
  | nil => exact ⟨by simp, by simp, by simp, by simp⟩
  | append_singleton declared p ih =>
      rw [List.foldl_concat]
      exact ih.put p

/-- The keys are those of the declarations in the order in which they first come. -/
theorem Merges.map_key_eq (h : Merges declared merged) (h' : Merges declared merged') :
    merged.map key = merged'.map key := by
  refine List.Perm.eq_of_pairwise ?_ h.ordered h'.ordered ?_
  · intro a b _ _ hlt hgt
    exact absurd hlt (Nat.lt_asymm hgt)
  · rw [List.perm_ext_iff_of_nodup h.nodup h'.nodup]
    intro k
    rw [h.mem_keys, h'.mem_keys]

/-- Declarations are merged in one way. -/
theorem Merges.unique (h : Merges declared merged) (h' : Merges declared merged') :
    merged = merged' := by
  have hkeys := h.map_key_eq h'
  refine List.ext_getElem (by simpa using congrArg List.length hkeys) ?_
  intro i hi hi'
  apply (h.isLast _ (List.getElem_mem hi)).unique (h'.isLast _ (List.getElem_mem hi'))
  have hkey : (merged.map key)[i]? = (merged'.map key)[i]? := by rw [hkeys]
  simpa [hi, hi'] using hkey

/-! ## Declarations that are made again -/

/-- Two parameters have the same key, and are the same unless it is declared again. -/
def SameUnlessAmong (again : List Parameter) (p q : Parameter) : Prop :=
  p.key = q.key ∧ (p = q ∨ ∃ later ∈ again, later.key = p.key)

theorem map_key_eq_of_forall₂ {again : List Parameter}
    (h : List.Forall₂ (SameUnlessAmong again) declared others) :
    declared.map key = others.map key := by
  induction h with
  | nil => rfl
  | cons hfirst _ ih => rw [List.map_cons, List.map_cons, hfirst.1, ih]

/-- The last declarations are the same. -/
theorem IsLast.of_forall₂ {again : List Parameter}
    (h : List.Forall₂ (SameUnlessAmong again) declared others)
    (hlast : IsLast (declared ++ again) p) : IsLast (others ++ again) p := by
  induction h with
  | nil => exact hlast
  | @cons first other declared others hfirst hrest ih =>
      rw [List.cons_append, isLast_cons] at hlast ⊢
      rcases hlast with ⟨rfl, hafter⟩ | hlast
      · obtain ⟨hkey, rfl | ⟨later, hlater, hsame⟩⟩ := hfirst
        · refine Or.inl ⟨rfl, ?_⟩
          -- no later one of the others has the key either, since their keys are the same
          have hkeys : (others ++ again).map key = (declared ++ again).map key := by
            rw [List.map_append, List.map_append, map_key_eq_of_forall₂ hrest]
          intro later hlater hsame
          have hmem : first.key ∈ (declared ++ again).map key := by
            rw [← hkeys, ← hsame]
            exact List.mem_map_of_mem hlater
          obtain ⟨later', hlater', hsame'⟩ := List.mem_map.mp hmem
          exact hafter later' hlater' hsame'
        · exact absurd hsame (hafter later (List.mem_append_right _ hlater))
      · exact Or.inr (ih hlast)

theorem Merges.of_forall₂ {again : List Parameter}
    (h : List.Forall₂ (SameUnlessAmong again) declared others)
    (hmerges : Merges (declared ++ again) merged) : Merges (others ++ again) merged := by
  have hkeys : (declared ++ again).map key = (others ++ again).map key := by
    rw [List.map_append, List.map_append, map_key_eq_of_forall₂ h]
  exact ⟨hmerges.nodup, hkeys ▸ hmerges.mem_keys, hkeys ▸ hmerges.ordered,
    fun p hp => (hmerges.isLast p hp).of_forall₂ h⟩

end Parameter

namespace Components

variable {components : Components} {declaration : ParameterOrRef} {p : Parameter}
  {declarations pathLevel others operationLevel : List ParameterOrRef}
  {declared : List Parameter}

/-! ## Declarations -/

/-- The parameter that a declaration stands for: the one that is written there, or the
component that it refers to. -/
inductive StandsFor (components : Components) : ParameterOrRef → Parameter → Prop where
  | parameter (p : Parameter) : StandsFor components (.parameter p) p
  | reference {target : String} {p : Parameter}
      (hfound : components.parameter? target = some p) :
      StandsFor components (.reference target) p

/-- The parameters that declarations stand for, one by one. -/
def StandFor (components : Components) (declarations : List ParameterOrRef)
    (declared : List Parameter) : Prop :=
  List.Forall₂ components.StandsFor declarations declared

theorem declared_eq_ok_iff :
    components.declared declaration = .ok p ↔ components.StandsFor declaration p := by
  constructor
  · intro h
    cases declaration with
    | parameter q =>
        obtain rfl := Except.ok.inj h
        exact .parameter q
    | reference target =>
        cases hfound : components.parameter? target with
        | none => simp [Components.declared, hfound] at h
        | some q =>
            simp only [Components.declared, hfound, Except.ok.injEq] at h
            exact .reference (h ▸ hfound)
  · rintro (_ | hfound)
    · rfl
    · simp [Components.declared, hfound]

/-- Only a reference can stand for nothing. -/
theorem declared_eq_error_iff {failure : Failure} :
    components.declared declaration = .error failure ↔
      ∃ target, declaration = .reference target ∧ components.parameter? target = none ∧
        failure = .referenceNotFound target := by
  cases declaration with
  | parameter q => simp [Components.declared]
  | reference target =>
      cases hfound : components.parameter? target <;>
        simp [Components.declared, hfound, eq_comm]

theorem exists_standsFor_iff :
    (∃ p, components.StandsFor declaration p) ↔
      ∀ target, declaration = .reference target → components.parameter? target ≠ none := by
  simp only [← declared_eq_ok_iff]
  cases hdeclared : components.declared declaration with
  | ok p =>
      have hfound : ∀ target, declaration = .reference target →
          components.parameter? target ≠ none := by
        intro target htarget hnone
        cases hdeclared.symm.trans
          (declared_eq_error_iff.mpr ⟨target, htarget, hnone, rfl⟩)
      simpa using hfound
  | error failure =>
      obtain ⟨target, rfl, hnone, -⟩ := declared_eq_error_iff.mp hdeclared
      simp [hnone]

/-! ## Merging -/

/-- All declarations are read before anything is merged. -/
theorem mergeParameters_eq (components : Components)
    (pathLevel operationLevel : List ParameterOrRef) :
    components.mergeParameters pathLevel operationLevel =
      ((pathLevel ++ operationLevel).mapM components.declared).map
        (·.foldl (fun merged p => p.put merged) []) :=
  foldlM_eq_map_mapM (fun merged (p : Parameter) => p.put merged) []

theorem mapM_declared_eq_ok_iff :
    declarations.mapM components.declared = .ok declared ↔
      components.StandFor declarations declared := by
  simp only [mapM_eq_ok_iff, declared_eq_ok_iff, StandFor]

/-- What is merged are the parameters that the declarations stand for. -/
theorem mergeParameters_eq_ok_iff {merged : List Parameter} :
    components.mergeParameters pathLevel operationLevel = .ok merged ↔
      ∃ declared, components.StandFor (pathLevel ++ operationLevel) declared ∧
        Parameter.Merges declared merged := by
  rw [mergeParameters_eq, map_eq_ok_iff]
  simp only [mapM_declared_eq_ok_iff]
  refine exists_congr fun declared => and_congr_right fun _ => ?_
  have hmerges := Parameter.merges_foldl_put declared
  exact ⟨fun h => h ▸ hmerges, fun h => hmerges.unique h⟩

/-- What fails is the first reference that stands for nothing. -/
theorem mergeParameters_eq_error_iff {failure : Failure} :
    components.mergeParameters pathLevel operationLevel = .error failure ↔
      ∃ before target after, pathLevel ++ operationLevel = before ++ .reference target :: after ∧
        (∀ earlier, .reference earlier ∈ before → components.parameter? earlier ≠ none) ∧
          components.parameter? target = none ∧ failure = .referenceNotFound target := by
  have hbefore {before : List ParameterOrRef} :
      (∀ declaration ∈ before, ∃ p, components.declared declaration = .ok p) ↔
        ∀ earlier, .reference earlier ∈ before → components.parameter? earlier ≠ none := by
    simp only [declared_eq_ok_iff, exists_standsFor_iff]
    exact ⟨fun h earlier hmem => h _ hmem earlier rfl,
      fun h _ hmem target htarget => h target (htarget ▸ hmem)⟩
  rw [mergeParameters_eq, map_eq_error_iff, mapM_eq_error_iff]
  simp only [hbefore, declared_eq_error_iff]
  constructor
  · rintro ⟨before, _, after, hsplit, hall, target, rfl, hnone, hfailure⟩
    exact ⟨before, target, after, hsplit, hall, hnone, hfailure⟩
  · rintro ⟨before, target, after, hsplit, hall, hnone, hfailure⟩
    exact ⟨before, _, after, hsplit, hall, target, rfl, hnone, hfailure⟩

/-- Merging fails if some reference stands for nothing. -/
theorem exists_mergeParameters_eq_error_iff :
    (∃ failure, components.mergeParameters pathLevel operationLevel = .error failure) ↔
      ∃ target, .reference target ∈ pathLevel ++ operationLevel ∧
        components.parameter? target = none := by
  simp only [mergeParameters_eq, map_eq_error_iff, exists_mapM_eq_error_iff,
    declared_eq_error_iff]
  constructor
  · rintro ⟨_, hmem, _, target, rfl, hnone, -⟩
    exact ⟨target, hmem, hnone⟩
  · rintro ⟨target, hmem, hnone⟩
    exact ⟨_, hmem, _, target, rfl, hnone, rfl⟩

/-! ## What the operation declares again -/

/-- Two declarations stand for parameters with the same key, and for the same parameter
unless one of `again` stands for a parameter with this key as well. -/
def AgreeUnless (components : Components) (again : List ParameterOrRef)
    (first second : ParameterOrRef) : Prop :=
  ∃ p q, components.StandsFor first p ∧ components.StandsFor second q ∧ p.key = q.key ∧
    (p = q ∨ ∃ declaration ∈ again, ∃ later, components.StandsFor declaration later ∧
      later.key = p.key)

theorem mem_of_standFor (h : components.StandFor declarations declared)
    (hmem : declaration ∈ declarations) (hp : components.StandsFor declaration p) :
    p ∈ declared := by
  induction h with
  | nil => cases hmem
  | cons hfirst _ ih =>
      rcases List.mem_cons.mp hmem with rfl | hmem
      · have hsame := (declared_eq_ok_iff.mpr hp).symm.trans (declared_eq_ok_iff.mpr hfirst)
        exact Except.ok.inj hsame ▸ List.mem_cons_self
      · exact List.mem_cons_of_mem _ (ih hmem)

/-- The parameters that such declarations stand for. -/
theorem exists_standFor_of_agreeUnless
    (h : List.Forall₂ (components.AgreeUnless operationLevel) pathLevel others) :
    ∃ declared declared', components.StandFor pathLevel declared ∧
      components.StandFor others declared' ∧
        ∀ again, components.StandFor operationLevel again →
          List.Forall₂ (Parameter.SameUnlessAmong again) declared declared' := by
  induction h with
  | nil => exact ⟨[], [], .nil, .nil, fun _ _ => .nil⟩
  | cons hfirst _ ih =>
      obtain ⟨declared, declared', hdeclared, hdeclared', hsame⟩ := ih
      obtain ⟨p, q, hp, hq, hkey, hunless⟩ := hfirst
      refine ⟨p :: declared, q :: declared', .cons hp hdeclared, .cons hq hdeclared', ?_⟩
      intro again hagain
      refine .cons ⟨hkey, hunless.imp_right ?_⟩ (hsame again hagain)
      rintro ⟨declaration, hmem, later, hlater, hlaterKey⟩
      exact ⟨later, mem_of_standFor hagain hmem hlater, hlaterKey⟩

/-- What the path says of a parameter makes no difference if the operation declares it
again. -/
theorem mergeParameters_congr
    (h : List.Forall₂ (components.AgreeUnless operationLevel) pathLevel others) :
    components.mergeParameters others operationLevel =
      components.mergeParameters pathLevel operationLevel := by
  obtain ⟨declared, declared', hdeclared, hdeclared', hsame⟩ := exists_standFor_of_agreeUnless h
  rw [mergeParameters_eq, mergeParameters_eq, List.mapM_append, List.mapM_append,
    mapM_declared_eq_ok_iff.mpr hdeclared, mapM_declared_eq_ok_iff.mpr hdeclared']
  cases hoperation : operationLevel.mapM components.declared with
  | error failure => rfl
  | ok again =>
      have hmerges := (Parameter.merges_foldl_put (declared ++ again)).of_forall₂
        (hsame again (mapM_declared_eq_ok_iff.mp hoperation))
      exact congrArg Except.ok ((Parameter.merges_foldl_put (declared' ++ again)).unique hmerges)

/-- Merging fails if a reference stands for nothing, and names the first such reference.
Otherwise it gives, for the parameters that the declarations stand for, every key once, in
the order of the first declarations, with what the last declaration says; and nothing that
a path says of a parameter matters if the operation declares it again. -/
theorem mergeParameters_exact (components : Components)
    (pathLevel operationLevel : List ParameterOrRef) :
    ((∃ failure, components.mergeParameters pathLevel operationLevel = .error failure) ↔
        ∃ target, .reference target ∈ pathLevel ++ operationLevel ∧
          components.parameter? target = none) ∧
      (∀ failure, components.mergeParameters pathLevel operationLevel = .error failure ↔
        ∃ before target after,
          pathLevel ++ operationLevel = before ++ .reference target :: after ∧
            (∀ earlier, .reference earlier ∈ before → components.parameter? earlier ≠ none) ∧
              components.parameter? target = none ∧ failure = .referenceNotFound target) ∧
      (∀ merged, components.mergeParameters pathLevel operationLevel = .ok merged ↔
        ∃ declared, components.StandFor (pathLevel ++ operationLevel) declared ∧
          Parameter.Merges declared merged) ∧
      ∀ others, List.Forall₂ (components.AgreeUnless operationLevel) pathLevel others →
        components.mergeParameters others operationLevel =
          components.mergeParameters pathLevel operationLevel :=
  ⟨exists_mergeParameters_eq_error_iff, fun _ => mergeParameters_eq_error_iff,
    fun _ => mergeParameters_eq_ok_iff, fun _ => mergeParameters_congr⟩

/-! ### Pages of a list -/

/-- Whether a list is given in full. -/
def verboseParameter (required : Bool) : Parameter where
  name := "verbose"
  location := .query
  required := required

/-- The number of a page, in the query or elsewhere. -/
def pageParameter (location : Location) : Parameter where
  name := "page"
  location := location

/-- Components with the page in the query. -/
def pageComponents : Components where
  parameters := [("Page", pageParameter .query)]

/-- What the path of a list declares. -/
def listPathLevel (required : Bool) : List ParameterOrRef :=
  [.parameter (verboseParameter required), .reference "#/components/parameters/Page"]

/-- What the operation on it declares. -/
def listOperationLevel : List ParameterOrRef :=
  [.parameter (pageParameter .header), .parameter (verboseParameter false)]

theorem merges_listLevels :
    Parameter.Merges
      [verboseParameter true, pageParameter .query, pageParameter .header,
        verboseParameter false]
      [verboseParameter false, pageParameter .query, pageParameter .header] where
  nodup := by decide
  mem_keys k := by
    simp only [List.map_cons, List.map_nil, List.mem_cons, List.not_mem_nil, or_false]
    have hsame : (verboseParameter true).key = (verboseParameter false).key := rfl
    rw [hsame]
    tauto
  ordered := by decide
  isLast := by
    simp only [List.forall_mem_cons]
    exact ⟨⟨[_, _, _], [], rfl, by decide⟩, ⟨[_], [_, _], rfl, by decide⟩,
      ⟨[_, _], [_], rfl, by decide⟩, by simp⟩

/-- The operation declares a page in another location, which is added, and makes the first
parameter of the path optional where it stands, whatever the path says of it.  A reference
to nothing is refused. -/
theorem mergeParameters_exact_listPathLevel :
    List.Forall₂ (pageComponents.AgreeUnless listOperationLevel) (listPathLevel true)
        (listPathLevel false) ∧
      pageComponents.mergeParameters (listPathLevel true) listOperationLevel =
          .ok [verboseParameter false, pageParameter .query, pageParameter .header] ∧
        pageComponents.mergeParameters (listPathLevel false) listOperationLevel =
            .ok [verboseParameter false, pageParameter .query, pageParameter .header] ∧
          pageComponents.mergeParameters (listPathLevel true)
              [.reference "#/components/parameters/Size", .reference "Page"] =
            .error (.referenceNotFound "#/components/parameters/Size") := by
  have hpage : pageComponents.parameter? "#/components/parameters/Page" =
      some (pageParameter .query) := by rfl
  have hsize : pageComponents.parameter? "#/components/parameters/Size" = none := by rfl
  have hagree : List.Forall₂ (pageComponents.AgreeUnless listOperationLevel)
      (listPathLevel true) (listPathLevel false) := by
    refine .cons ?_ (.cons ?_ .nil)
    · exact ⟨_, _, .parameter _, .parameter _, rfl, Or.inr
        ⟨.parameter (verboseParameter false), by simp [listOperationLevel], _, .parameter _, rfl⟩⟩
    · exact ⟨_, _, .reference hpage, .reference hpage, rfl, Or.inl rfl⟩
  obtain ⟨-, -, hmerged, hothers⟩ :=
    mergeParameters_exact pageComponents (listPathLevel true) listOperationLevel
  have hlist := (hmerged _).mpr ⟨_,
    .cons (.parameter _) (.cons (.reference hpage)
      (.cons (.parameter _) (.cons (.parameter _) .nil))), merges_listLevels⟩
  refine ⟨hagree, hlist, (hothers _ hagree).trans hlist, ?_⟩
  obtain ⟨-, hrefused, -⟩ := mergeParameters_exact pageComponents (listPathLevel true)
    [.reference "#/components/parameters/Size", .reference "Page"]
  refine (hrefused _).mpr ⟨listPathLevel true, _, _, rfl, ?_, hsize, rfl⟩
  intro earlier hearlier
  obtain rfl : earlier = "#/components/parameters/Page" := by
    simpa [listPathLevel] using hearlier
  simp [hpage]

end Components
end ApiContract
