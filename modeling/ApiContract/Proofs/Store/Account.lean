import ApiContract.Proofs.Store.Recency
import Mathlib.Data.List.Sort
import Mathlib.Data.String.Basic

/-!
# Instances over whole runs

Instances outlive the names they are bound to, so that whoever holds one may go on using
it.  `Accounts` says what a store tells of its instances: which of them answers to a
name, what their counters are, and that no contract changes.  It holds after every run.
-/

namespace ApiContract
namespace Store

variable {store : Store} {name : String} {handle : Handle} {limits : StoreLimits}
  {past : List Record} {r : Record} {i : Instance}

/-- What a store tells of the instances that its history created. -/
structure Accounts (past : List Record) (store : Store) : Prop where
  /-- The instances are the loads that created one, in order. -/
  contracts_eq : store.instances.map (·.contract) = (created past).map (·.2)
  /-- Who asks for a name is given the instance of the latest load under it, while that
  is bound. -/
  get_eq_ok_iff : ∀ name now handle,
    (store.get name now).1 = .ok handle ↔ Bound past name handle
  get_eq_error_iff : ∀ name now,
    (store.get name now).1 = .error (.contractNotFound name) ↔ ∀ handle, ¬Bound past name handle
  /-- A name stays bound until it is dismissed or displaced. -/
  frees_iff : ∀ (event : Event) name handle, Bound past name handle →
    (Record.Frees { event with store } name ↔
      Record.Dismisses { event with store } name handle ∨
        Record.Displaces { event with store } name)
  /-- Whatever happens later, an instance answers by the contract that was loaded. -/
  answers_eq : ∀ handle name contract later,
    (created past)[handle]? = some (name, contract) →
      ∃ i, (store.run later).instance? handle = some i ∧ i.contract = contract ∧
        ∀ path, (i.resolve path).1 = contract.router.resolve path ∧
          ∀ text, (i.verify path text).1 = contract.router.verify path text
  /-- The counters of an instance are those of the events that returned it or let it find
  a route. -/
  counters_eq : ∀ handle i, store.instance? handle = some i →
    i.hits = returnCount past handle ∧ latestAccess? past handle = some i.lastAccess ∧
      ∀ text, i.routeHits.of text = findCount past handle text
  /-- An event adds to the counters of an instance that it returns or that finds a route,
  and to no others. -/
  counters_next : ∀ (event : Event) handle i, store.instance? handle = some i →
    let r : Record := { event with store }
    ∃ i', r.next.instance? handle = some i' ∧
      i'.hits = i.hits + (if r.returns? = some handle then 1 else 0) ∧
      ∀ text, i'.routeHits.of text =
        i.routeHits.of text + if r.finds? = some (handle, text) then 1 else 0
  /-- Who asks for a name that is not bound leaves the store unchanged. -/
  get_failed : ∀ name now failure,
    (store.get name now).1 = .error failure → (store.get name now).2 = store
  /-- So does the holder of an instance for which there is no such route. -/
  resolve_failed : ∀ now handle path,
    (store.foundBy? handle fun i => (i.resolve path).1) = none →
      store.act now (.resolve handle path) = store
  verify_failed : ∀ now handle path text,
    (store.foundBy? handle fun i => (i.verify path text).1) = none →
      store.act now (.verify handle path text) = store
  /-- The snapshot lists the names in order, each once. -/
  snapshot_ascending : (store.snapshot.map (·.1)).Pairwise (· < ·)
  /-- The snapshot shows the bound instances. -/
  mem_snapshot_iff : ∀ name i, (name, i) ∈ store.snapshot ↔
    ∃ handle, Bound past name handle ∧ store.instance? handle = some i
  /-- The snapshot shows the counts of all routes of a bound instance. -/
  routeCounts_iff : ∀ name i, (name, i) ∈ store.snapshot →
    ∃ handle, Bound past name handle ∧ i.hits = returnCount past handle ∧
      ∀ text count, (text, count) ∈ i.routeCounts ↔
        (∃ route ∈ i.contract.router.routes, route.text = text) ∧
          count = findCount past handle text
  /-- What the holder of an instance does shows in no entry of another one. -/
  snapshot_detached : ∀ now held path text name i, (name, i) ∈ store.snapshot →
    store.find? name ≠ some held →
      (name, i) ∈ (store.act now (.resolve held path)).snapshot ∧
        (name, i) ∈ (store.act now (.verify held path text)).snapshot

/-! ## Contracts do not change -/

/-- An event keeps the contracts of all instances. -/
theorem contracts_prefix_next (r : Record) :
    (r.store.instances.map (·.contract)) <+: r.next.instances.map (·.contract) := by
  cases hcreates : r.creates? with
  | none => exact (Record.uses_next hcreates).contracts_eq ▸ List.prefix_refl _
  | some loaded =>
      obtain ⟨name, contract⟩ := loaded
      rw [(Record.next_of_creates hcreates).2.2, bind, List.map_append,
        (r.store.narrows_roomFor name).instances_eq]
      exact List.prefix_append _ _

theorem contracts_prefix_run (store : Store) (events : List Event) :
    (store.instances.map (·.contract)) <+: (store.run events).instances.map (·.contract) := by
  induction events generalizing store with
  | nil => exact List.prefix_refl _
  | cons event events ih =>
      exact (contracts_prefix_next { event with store }).trans (ih _)

theorem exists_instance?_run {contract : Contract} (events : List Event)
    (h : (store.instances.map (·.contract))[handle]? = some contract) :
    ∃ i, (store.run events).instance? handle = some i ∧ i.contract = contract := by
  obtain ⟨rest, hrest⟩ := store.contracts_prefix_run events
  have hlater : ((store.run events).instances.map (·.contract))[handle]? = some contract := by
    rw [← hrest]
    exact List.getElem?_append_left (List.getElem?_eq_some_iff.mp h).1 ▸ h
  rwa [List.getElem?_map, Option.map_eq_some_iff] at hlater

/-! ## Holders of instances -/

/-- A holder for whom there is no such route changes nothing. -/
theorem visit_of_failed {find : Instance → Except Failure Route × Instance}
    (hfind : ∀ i, (find i).2 = { i with routeHits := i.routeHits.addFound (find i).1 })
    (h : (store.foundBy? handle fun i => (find i).1) = none) :
    ((store.visit? handle find).map (·.2)).getD store = store := by
  rw [visit?_snd_eq]
  apply amend_eq_self
  intro i hinstance
  rw [foundBy?_of_instance? hinstance] at h
  cases hfound : (find i).1 with
  | error failure => rw [hfind, hfound, Hits.addFound]
  | ok route => simp [hfound, Except.toOption] at h

theorem bound?_amend_of_ne {f : Instance → Instance} (h : store.find? name ≠ some handle) :
    (store.amend handle f).bound? name = store.bound? name := by
  have hfind : (store.amend handle f).find? name = store.find? name := rfl
  rw [bound?, bound?, hfind]
  cases hbound : store.find? name with
  | none => rfl
  | some other =>
      have hne : handle ≠ other := by
        rintro rfl
        exact h hbound
      simp [instance?_amend, hne]

/-! ## Snapshots -/

theorem mem_snapshot_iff : (name, i) ∈ store.snapshot ↔ store.bound? name = some i := by
  rw [snapshot, List.mem_filterMap]
  constructor
  · rintro ⟨listed, -, hentry⟩
    obtain ⟨i', hbound, hpair⟩ := Option.map_eq_some_iff.mp hentry
    obtain ⟨rfl, rfl⟩ := Prod.mk.inj hpair
    exact hbound
  · intro hbound
    obtain ⟨handle, hfind, -⟩ := Option.bind_eq_some_iff.mp hbound
    exact ⟨name, mem_names_iff.mpr ⟨handle, hfind⟩, by rw [hbound, Option.map_some]⟩

theorem snapshot_of_amend {f : Instance → Instance} (h : store.find? name ≠ some handle)
    (hentry : (name, i) ∈ store.snapshot) : (name, i) ∈ (store.amend handle f).snapshot := by
  rw [mem_snapshot_iff] at hentry ⊢
  rw [bound?_amend_of_ne h, hentry]

theorem pairwise_names (hkeys : (store.bound.map (·.1)).Nodup) :
    store.names.Pairwise (· < ·) := by
  have hordered : store.names.Pairwise (· ≤ ·) := List.pairwise_mergeSort' (· ≤ ·) _
  have hdistinct : store.names.Nodup := (List.mergeSort_perm _ _).nodup_iff.mpr hkeys
  exact (hordered.and hdistinct).imp fun h => lt_of_le_of_ne h.1 h.2

theorem pairwise_snapshot (hkeys : (store.bound.map (·.1)).Nodup) :
    (store.snapshot.map (·.1)).Pairwise (· < ·) := by
  rw [snapshot, List.map_filterMap]
  have hkept {name found : String}
      (h : ((store.bound? name).map fun i => (name, i)).map (·.1) = some found) :
      name = found := by
    obtain ⟨entry, hentry, rfl⟩ := Option.map_eq_some_iff.mp h
    obtain ⟨i, -, rfl⟩ := Option.map_eq_some_iff.mp hentry
    rfl
  apply (pairwise_names hkeys).filterMap
  intro name other hless found hfound found' hfound'
  rwa [← hkept hfound, ← hkept hfound']

theorem mem_routeCounts_iff {text : String} {count : Nat} :
    (text, count) ∈ i.routeCounts ↔
      (∃ route ∈ i.contract.router.routes, route.text = text) ∧
        count = i.routeHits.of text := by
  rw [Instance.routeCounts, Router.counts, List.mem_mergeSort, List.mem_map]
  constructor
  · rintro ⟨route, hmem, hpair⟩
    obtain ⟨rfl, rfl⟩ := Prod.mk.inj hpair
    exact ⟨⟨route, hmem, rfl⟩, rfl⟩
  · rintro ⟨⟨route, hmem, rfl⟩, rfl⟩
    exact ⟨route, hmem, rfl⟩

/-! ## Every run -/

namespace Reflects

theorem get_eq_ok_iff (h : Reflects limits past store) {now : Instant} :
    (store.get name now).1 = .ok handle ↔ Bound past name handle := by
  rw [← h.find?_iff]
  cases hfind : store.find? name with
  | none => simp [get_eq_of_unbound hfind]
  | some held => simp [get_eq_of_bound hfind]

theorem get_eq_error_iff (h : Reflects limits past store) {now : Instant} :
    (store.get name now).1 = .error (.contractNotFound name) ↔
      ∀ handle, ¬Bound past name handle := by
  simp only [← h.find?_iff]
  cases hfind : store.find? name with
  | none => simp [get_eq_of_unbound hfind]
  | some held => simp [get_eq_of_bound hfind]

theorem counters_eq (h : Reflects limits past store) (hinstance : store.instance? handle = some i) :
    i.hits = returnCount past handle ∧ latestAccess? past handle = some i.lastAccess ∧
      ∀ text, i.routeHits.of text = findCount past handle text := by
  refine ⟨?_, ?_, ?_⟩
  · rw [h.returnCount_eq, hinstance, Option.map_some, Option.getD_some]
  · rw [h.latestAccess?_eq, hinstance, Option.map_some]
  · intro text
    rw [h.findCount_eq, hinstance, Option.map_some, Option.getD_some]

theorem mem_snapshot_iff (h : Reflects limits past store) :
    (name, i) ∈ store.snapshot ↔
      ∃ handle, Bound past name handle ∧ store.instance? handle = some i := by
  rw [Store.mem_snapshot_iff, bound?, Option.bind_eq_some_iff]
  simp only [h.find?_iff]

theorem accounts (h : Reflects limits past store) : Accounts past store where
  contracts_eq := h.contracts_eq
  get_eq_ok_iff name now handle := h.get_eq_ok_iff
  get_eq_error_iff name now := h.get_eq_error_iff
  frees_iff event name handle hbound :=
    @Record.frees_iff _ _ { event with store } h.keys_nodup h.size_le
      ((h.find?_iff name handle).mpr hbound)
  answers_eq := by
    intro handle name contract later hcreated
    have hcontract : (store.instances.map (·.contract))[handle]? = some contract := by
      rw [h.contracts_eq, List.getElem?_map, hcreated, Option.map_some]
    obtain ⟨i, hinstance, rfl⟩ := exists_instance?_run later hcontract
    exact ⟨i, hinstance, rfl, fun path => ⟨rfl, fun text => rfl⟩⟩
  counters_eq handle i hinstance := h.counters_eq hinstance
  counters_next := by
    intro event handle i hinstance r
    exact ⟨r.change handle i, Record.instance?_next hinstance, rfl,
      r.of_routeHits_change handle i⟩
  get_failed := by
    intro name now failure hfailed
    cases hfind : store.find? name with
    | none => rw [get_eq_of_unbound hfind]
    | some held =>
        rw [get_eq_of_bound hfind] at hfailed
        cases hfailed
  resolve_failed now handle path hfailed :=
    @visit_of_failed _ _ (fun i => i.resolve path) (fun _ => rfl) hfailed
  verify_failed now handle path text hfailed :=
    @visit_of_failed _ _ (fun i => i.verify path text) (fun _ => rfl) hfailed
  snapshot_ascending := pairwise_snapshot h.keys_nodup
  mem_snapshot_iff name i := h.mem_snapshot_iff
  routeCounts_iff := by
    intro name i hentry
    obtain ⟨handle, hbound, hinstance⟩ := h.mem_snapshot_iff.mp hentry
    obtain ⟨hhits, -, hfound⟩ := h.counters_eq hinstance
    refine ⟨handle, hbound, hhits, ?_⟩
    intro text count
    rw [mem_routeCounts_iff, hfound]
  snapshot_detached := by
    intro now held path text name i hentry hne
    rw [act, act, visit?_snd_eq, visit?_snd_eq]
    exact ⟨snapshot_of_amend hne hentry, snapshot_of_amend hne hentry⟩

end Reflects

/-- After every run, the store tells of its instances what happened to them. -/
theorem accounts_run (limits : StoreLimits) (start : Instant) (events : List Event) :
    Accounts ((empty limits start).history events) ((empty limits start).run events) :=
  (reflects_run limits start events).accounts

/-- Cats are evicted and loaded again, and who was given them before finds their route. -/
def heldEvents : List Event :=
  petEvents ++
    [⟨4, .evict "cats"⟩, ⟨5, .load "cats" petsText⟩, ⟨6, .resolve 0 "/pets"⟩]

/-- The store with cats that were loaded again. -/
def heldStore : Store where
  limits := { maxApis := 2 }
  lastCleanup := 0
  instances := [
    { contract := petsContract, lastAccess := 3, hits := 1, routeHits := ⟨[("/pets", 1)]⟩ },
    { contract := petsContract, lastAccess := 2 },
    { contract := petsContract, lastAccess := 5 }]
  bound := [("cats", 2), ("dogs", 1)]

theorem run_heldEvents : (empty { maxApis := 2 } 0).run heldEvents = heldStore := by
  have hpets := run_petEvents
  rw [run] at hpets
  rw [run, heldEvents, List.foldl_append, hpets]
  simp only [List.foldl_cons, List.foldl_nil, act]
  rw [@load_petsText "cats" _ 5 (by rfl), visit?_snd_eq]
  rfl

/-- What is done with the cats that were evicted does not show in those that were loaded
again. -/
theorem accounts_run_heldEvents :
    let past := (empty { maxApis := 2 } 0).history heldEvents
    let store := (empty { maxApis := 2 } 0).run heldEvents
    (store.get "cats" 7).1 = .ok 2 ∧ Bound past "cats" 2 ∧
      returnCount past 0 = 1 ∧ findCount past 0 "/pets" = 1 ∧
        ∃ i, ("cats", i) ∈ store.snapshot ∧ i.hits = 0 ∧ i.routeCounts = [("/pets", 0)] := by
  intro past store
  have hstore : store = heldStore := run_heldEvents
  have h : Accounts past store := accounts_run { maxApis := 2 } 0 heldEvents
  have hget : (store.get "cats" 7).1 = .ok 2 := by
    rw [hstore]
    rfl
  have hbound : Bound past "cats" 2 := (h.get_eq_ok_iff "cats" 7 2).mp hget
  obtain ⟨hreturned, -, hfound⟩ := h.counters_eq 0
    { contract := petsContract, lastAccess := 3, hits := 1, routeHits := ⟨[("/pets", 1)]⟩ }
    (by rw [hstore]; rfl)
  refine ⟨hget, hbound, hreturned.symm, (hfound "/pets").symm, ?_⟩
  have hcounts : petsRouter.counts {} = [("/pets", 0)] := by decide +kernel
  refine ⟨{ contract := petsContract, lastAccess := 5 }, ?_, rfl, hcounts⟩
  exact (h.mem_snapshot_iff "cats" _).mpr ⟨2, hbound, by rw [hstore]; rfl⟩

end Store
end ApiContract
