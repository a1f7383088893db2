import ApiContract.Proofs.Store.Run
import Mathlib.Data.List.Induction
import Mathlib.Tactic.ByContra

/-!
# What a history tells of a store

The state of a store is told by the events that led to it.  Instances are the loads that
created one, in order; a name is bound to the instance of its latest load unless it was
freed since; and the counters and the last access of an instance are those of the events
that returned it or let it find a route.  `Reflects` states this, and every event keeps
it.
-/

namespace ApiContract
namespace Store

/-! ## Reading a history -/

/-- The names and contracts of the instances that were created, by number. -/
def created (past : List Record) : List (String × Contract) :=
  past.filterMap Record.creates?

namespace Record

/-- The event is a load under the name that tells that something was loaded. -/
def Creates (r : Record) (name : String) : Prop :=
  ∃ content, r.action.source? = some (name, content) ∧
    (r.store.load name content r.time).1 = .ok true

/-- The event frees the name: it is listed before, and not any more afterwards. -/
def Frees (r : Record) (name : String) : Prop :=
  name ∈ r.store.names ∧ name ∉ r.next.names

/-- The instance that the event accesses, by creating or by returning it. -/
def accesses? (r : Record) : Option Handle :=
  if r.creates?.isSome then some r.store.instances.length else r.returns?

end Record

/-- The instance of the latest load under the name, if the name was not freed since. -/
def Bound (past : List Record) (name : String) (handle : Handle) : Prop :=
  ∃ before r after, past = before ++ r :: after ∧ r.Creates name ∧
    handle = (created before).length ∧
      ∀ later ∈ after, ¬later.Creates name ∧ ¬later.Frees name

/-- When an instance was last accessed, by its own load or by who it was returned to. -/
def latestAccess? (past : List Record) (handle : Handle) : Option Instant :=
  (past.filter fun r => r.accesses? = some handle).getLast?.map (·.time)

/-- How often an instance was returned. -/
def returnCount (past : List Record) (handle : Handle) : Nat :=
  past.countP fun r => r.returns? = some handle

/-- How often an instance found the route with a text. -/
def findCount (past : List Record) (handle : Handle) (text : String) : Nat :=
  past.countP fun r => r.finds? = some (handle, text)

variable {past : List Record} {r : Record} {name : String} {handle : Handle}
  {contract : Contract} {store : Store} {limits : StoreLimits}

theorem Record.creates_iff : r.Creates name ↔ ∃ contract, r.creates? = some (name, contract) := by
  constructor
  · rintro ⟨content, hsource, hload⟩
    rcases r.store.load_cases name content r.time with ⟨contract, hparse, -⟩ | ⟨hother, -⟩
    · exact ⟨contract, creates?_of_loaded hsource hparse hload⟩
    · contradiction
  · rintro ⟨contract, hcreates⟩
    obtain ⟨⟨name', content⟩, hsource, hfound⟩ := Option.bind_eq_some_iff.mp hcreates
    split at hfound
    · rename_i hload
      obtain ⟨found, -, hpair⟩ := Option.map_eq_some_iff.mp hfound
      obtain ⟨rfl, -⟩ := Prod.mk.inj hpair
      exact ⟨content, hsource, hload⟩
    · cases hfound

/-! ## One more event -/

theorem created_append_singleton (past : List Record) (r : Record) :
    created (past ++ [r]) = created past ++ r.creates?.toList := by
  cases h : r.creates? <;> simp [created, h]

theorem bound_append_singleton_iff :
    Bound (past ++ [r]) name handle ↔
      r.Creates name ∧ handle = (created past).length ∨
        ¬r.Creates name ∧ ¬r.Frees name ∧ Bound past name handle := by
  constructor
  · rintro ⟨before, load, after, hsplit, hcreates, hhandle, hsince⟩
    rcases List.eq_nil_or_concat after with rfl | ⟨since, last, rfl⟩
    · obtain ⟨rfl, hlast⟩ := List.append_inj' hsplit rfl
      obtain rfl := List.singleton_inj.mp hlast
      exact Or.inl ⟨hcreates, hhandle⟩
    · rw [List.concat_eq_append, ← List.cons_append, ← List.append_assoc] at hsplit
      obtain ⟨rfl, hlast⟩ := List.append_inj' hsplit rfl
      obtain rfl := List.singleton_inj.mp hlast
      simp only [List.concat_eq_append, List.mem_append, List.mem_singleton] at hsince
      have hnow := hsince r (Or.inr rfl)
      refine Or.inr ⟨hnow.1, hnow.2, before, load, since, rfl, hcreates, hhandle, ?_⟩
      intro later hlater
      exact hsince later (Or.inl hlater)
  · rintro (⟨hcreates, hhandle⟩ | ⟨hnone, hkept, before, load, since, rfl, hcreates,
      hhandle, hsince⟩)
    · exact ⟨past, r, [], rfl, hcreates, hhandle, by simp⟩
    · refine ⟨before, load, since ++ [r], by simp, hcreates, hhandle, ?_⟩
      intro later hlater
      rcases List.mem_append.mp hlater with hlater | hlater
      · exact hsince later hlater
      · obtain rfl := List.mem_singleton.mp hlater
        exact ⟨hnone, hkept⟩

theorem Bound.exists_created (h : Bound past name handle) :
    ∃ contract, (created past)[handle]? = some (name, contract) := by
  obtain ⟨before, load, after, rfl, hload, rfl, -⟩ := h
  obtain ⟨contract, hcreates⟩ := Record.creates_iff.mp hload
  exact ⟨contract, by simp [created, hcreates]⟩

theorem Bound.lt_length (h : Bound past name handle) : handle < (created past).length := by
  obtain ⟨contract, hcreated⟩ := h.exists_created
  exact (List.getElem?_eq_some_iff.mp hcreated).1

theorem latestAccess?_append_singleton :
    latestAccess? (past ++ [r]) handle =
      if r.accesses? = some handle then some r.time else latestAccess? past handle := by
  by_cases h : r.accesses? = some handle <;> simp [latestAccess?, h]

theorem returnCount_append_singleton :
    returnCount (past ++ [r]) handle =
      returnCount past handle + if r.returns? = some handle then 1 else 0 := by
  simp [returnCount, List.countP_append, List.countP_singleton]

theorem findCount_append_singleton {text : String} :
    findCount (past ++ [r]) handle text =
      findCount past handle text + if r.finds? = some (handle, text) then 1 else 0 := by
  simp [findCount, List.countP_append, List.countP_singleton]

/-! ## Events and bound names -/

theorem mem_names_iff : name ∈ store.names ↔ ∃ handle, store.find? name = some handle := by
  rw [names, List.mem_mergeSort, find?, ← Option.isSome_iff_exists, List.lookup_isSome_iff,
    List.mem_map]
  simp only [beq_iff_eq]
  exact exists_congr fun _ => and_congr_right fun _ => eq_comm

theorem find?_bind_self (store : Store) (name : String) (contract : Contract)
    (now : Instant) :
    (store.bind name contract now).find? name = some store.instances.length :=
  List.lookup_cons_self

theorem find?_bind_of_ne {other : String} {now : Instant} (h : other ≠ name) :
    (store.bind name contract now).find? other = store.find? other := by
  have hbound : (store.bind name contract now).find? other =
      (store.remove name).find? other := by
    rw [find?, bind, List.lookup_cons, beq_false_of_ne h]
    rfl
  rw [hbound, find?_remove_of_ne h]

theorem instance?_bind {now : Instant} :
    (store.bind name contract now).instance? handle =
      if handle = store.instances.length then some { contract, lastAccess := now }
      else store.instance? handle := by
  rw [instance?, bind, List.getElem?_append]
  rcases Nat.lt_trichotomy handle store.instances.length with hold | rfl | hnew
  · rw [if_pos hold, if_neg (Nat.ne_of_lt hold), instance?]
  · simp
  · rw [if_neg (Nat.lt_asymm hnew), if_neg (Nat.ne_of_gt hnew), instance?,
      List.getElem?_eq_none (Nat.le_of_lt hnew), List.getElem?_eq_none]
    exact Nat.sub_pos_of_lt hnew

theorem nodup_bind {now : Instant} (hkeys : (store.bound.map (·.1)).Nodup) :
    ((store.bind name contract now).bound.map (·.1)).Nodup := by
  refine List.nodup_cons.mpr ⟨?_, ?_⟩
  · intro hmem
    obtain ⟨entry, hentry, hname⟩ := List.mem_map.mp hmem
    exact of_decide_eq_true (List.mem_filter.mp hentry).2 hname
  · exact ((store.narrows_remove name).sublist.map _).nodup hkeys

/-- There is room for a new binding. -/
theorem size_bind_roomFor_le {now : Instant} (hsize : store.size ≤ store.capacity) :
    ((store.roomFor name).bind name contract now).size ≤ store.capacity := by
  have hpos : 1 ≤ store.capacity := Nat.le_max_right _ _
  have hbind (room : Store) :
      (room.bind name contract now).size = (room.remove name).size + 1 := rfl
  rw [hbind, roomFor]
  cases hfind : store.find? name with
  | some handle =>
      have hless := size_remove_lt (mem_of_lookup hfind)
      rw [Option.isSome_some, if_pos rfl]
      omega
  | none =>
      rw [Option.isSome_none, if_neg Bool.false_ne_true]
      have htrim := store.size_trim_le (store.capacity - 1)
      have hremove := ((store.trim (store.capacity - 1)).narrows_remove name).size_le
      omega

namespace Record

theorem accesses?_of_creates (h : r.creates? = some (name, contract)) :
    r.accesses? = some r.store.instances.length := by
  rw [accesses?, h, Option.isSome_some, if_pos rfl]

theorem accesses?_eq_returns? (h : r.creates? = none) : r.accesses? = r.returns? := by
  rw [accesses?, h, Option.isSome_none, if_neg Bool.false_ne_true]

theorem accesses?_eq_none_iff : r.accesses? = none ↔ r.creates? = none ∧ r.returns? = none := by
  cases hcreates : r.creates? with
  | none => rw [accesses?_eq_returns? hcreates, and_iff_right rfl]
  | some loaded => simp [accesses?, hcreates]

theorem instance?_next_of_creates (h : r.creates? = some (name, contract))
    (handle : Handle) :
    r.next.instance? handle =
      if handle = r.store.instances.length then some { contract, lastAccess := r.time }
      else r.store.instance? handle := by
  have hroom := r.store.narrows_roomFor name
  rw [(next_of_creates h).2.2, instance?_bind, hroom.instances_eq, hroom.instance?_eq]

theorem instance?_next_of_none (h : r.creates? = none) (handle : Handle) :
    r.next.instance? handle = (r.store.instance? handle).map (r.change handle) := by
  rw [instance?, (uses_next h).instances_eq, List.getElem?_mapIdx, instance?]

/-- What an event makes of an instance that there was before. -/
theorem instance?_next {i : Instance} (h : r.store.instance? handle = some i) :
    r.next.instance? handle = some (r.change handle i) := by
  cases hcreates : r.creates? with
  | none => rw [instance?_next_of_none hcreates, h, Option.map_some]
  | some loaded =>
      obtain ⟨hreturns, hfinds, -⟩ := next_of_creates hcreates
      have hold : handle < r.store.instances.length := (List.getElem?_eq_some_iff.mp h).1
      rw [instance?_next_of_creates hcreates, if_neg (Nat.ne_of_lt hold), h,
        change_eq_id hreturns hfinds, id]

theorem of_routeHits_change (r : Record) (handle : Handle) (i : Instance) (text : String) :
    (r.change handle i).routeHits.of text =
      i.routeHits.of text + if r.finds? = some (handle, text) then 1 else 0 := by
  cases hfound : r.finds? with
  | none => simp [change, hfound]
  | some found =>
      obtain ⟨finder, other⟩ := found
      by_cases hfinder : finder = handle
      · simp [change, hfound, hfinder, Hits.of_add, eq_comm]
      · simp [change, hfound, hfinder]

/-- A name that is bound after an event which does not create an instance under it was
bound before to the same instance. -/
theorem find?_of_next (hkeys : (r.store.bound.map (·.1)).Nodup)
    (hnone : ¬r.Creates name) (h : r.next.find? name = some handle) :
    r.store.find? name = some handle := by
  cases hcreates : r.creates? with
  | none =>
      rw [find?_eq_some_iff_mem hkeys]
      exact (uses_next hcreates).sublist.subset (mem_of_lookup h)
  | some loaded =>
      obtain ⟨name', contract⟩ := loaded
      have hne : name ≠ name' := by
        rintro rfl
        exact hnone (creates_iff.mpr ⟨contract, hcreates⟩)
      rw [(next_of_creates hcreates).2.2, find?_bind_of_ne hne] at h
      exact (r.store.narrows_roomFor name').find?_eq_some hkeys h

/-- A name under which nothing is created stays bound unless it is freed. -/
theorem find?_next_iff (hkeys : (r.store.bound.map (·.1)).Nodup)
    (hnone : ¬r.Creates name) :
    r.next.find? name = some handle ↔ ¬r.Frees name ∧ r.store.find? name = some handle := by
  constructor
  · intro h
    refine ⟨?_, find?_of_next hkeys hnone h⟩
    rintro ⟨-, hfreed⟩
    exact hfreed (mem_names_iff.mpr ⟨handle, h⟩)
  · rintro ⟨hkept, h⟩
    have hlisted : name ∈ r.next.names := by
      by_contra hfreed
      exact hkept ⟨mem_names_iff.mpr ⟨handle, h⟩, hfreed⟩
    obtain ⟨handle', h'⟩ := mem_names_iff.mp hlisted
    obtain rfl := Option.some.inj ((find?_of_next hkeys hnone h').symm.trans h)
    exact h'

/-- What is returned is bound. -/
theorem exists_find?_of_returns? (hkeys : (r.store.bound.map (·.1)).Nodup)
    (h : r.returns? = some handle) : ∃ name, r.store.find? name = some handle := by
  obtain ⟨⟨time, action⟩, store⟩ := r
  have hget {middle : Store} {api : String} (hnarrows : store.Narrows middle)
      (hanswer : (middle.get api time).1.toOption = some handle) :
      store.find? api = some handle := by
    cases hfind : middle.find? api with
    | none => simp [get_eq_of_unbound hfind, Except.toOption] at hanswer
    | some found =>
        obtain rfl : found = handle := by
          simpa [get_eq_of_bound hfind, Except.toOption] using hanswer
        exact hnarrows.find?_eq_some hkeys hfind
  cases action with
  | get name => exact ⟨name, hget (.refl store) h⟩
  | judge selector request hint =>
      obtain ⟨api, -, hanswer⟩ := Option.bind_eq_some_iff.mp h
      exact ⟨api, hget (store.narrows_maybeCleanup time) hanswer⟩
  | _ => cases h

/-- Who finds a route exists. -/
theorem isSome_instance?_of_finds? {text : String}
    (h : r.finds? = some (handle, text)) : (r.store.instance? handle).isSome := by
  have hfound {finder : Handle} {find : Instance → Except Failure Route}
      (hfinds : r.store.foundBy? finder find = some (handle, text)) :
      (r.store.instance? handle).isSome := by
    obtain ⟨i, hinstance, -⟩ := Option.bind_eq_some_iff.mp hfinds
    obtain rfl : handle = finder := fst_eq_of_foundBy? hfinds
    exact Option.isSome_of_mem hinstance
  rw [finds?] at h
  split at h
  · exact hfound h
  · exact hfound h
  · obtain ⟨finder, -, hfinds⟩ := Option.bind_eq_some_iff.mp h
    exact hfound hfinds
  · cases h

end Record

/-! ## The state of a store -/

/-- The state of a store is the one that its history tells. -/
structure Reflects (limits : StoreLimits) (past : List Record) (store : Store) : Prop where
  limits_eq : store.limits = limits
  keys_nodup : (store.bound.map (·.1)).Nodup
  size_le : store.size ≤ store.capacity
  find?_iff : ∀ name handle, store.find? name = some handle ↔ Bound past name handle
  contracts_eq : store.instances.map (·.contract) = (created past).map (·.2)
  latestAccess?_eq : ∀ handle,
    latestAccess? past handle = (store.instance? handle).map (·.lastAccess)
  returnCount_eq : ∀ handle,
    returnCount past handle = ((store.instance? handle).map (·.hits)).getD 0
  findCount_eq : ∀ handle text,
    findCount past handle text =
      ((store.instance? handle).map (·.routeHits.of text)).getD 0

namespace Reflects

theorem start (limits : StoreLimits) (now : Instant) :
    Reflects limits [] (empty limits now) where
  limits_eq := rfl
  keys_nodup := List.nodup_nil
  size_le := Nat.zero_le _
  find?_iff name handle := by simp [find?, empty, Bound]
  contracts_eq := rfl
  latestAccess?_eq _ := rfl
  returnCount_eq _ := rfl
  findCount_eq _ _ := rfl

theorem length_instances (h : Reflects limits past store) :
    store.instances.length = (created past).length := by
  have hlength := congrArg List.length h.contracts_eq
  rwa [List.length_map, List.length_map] at hlength

theorem isSome_instance?_of_find? (h : Reflects limits past store)
    (hfind : store.find? name = some handle) : (store.instance? handle).isSome := by
  have hold := ((h.find?_iff name handle).mp hfind).lt_length
  rw [← h.length_instances] at hold
  rw [instance?, List.getElem?_eq_getElem hold, Option.isSome_some]

theorem isSome_instance?_of_returns? (h : Reflects limits past r.store)
    (hreturns : r.returns? = some handle) : (r.store.instance? handle).isSome := by
  obtain ⟨name, hfind⟩ := Record.exists_find?_of_returns? h.keys_nodup hreturns
  exact h.isSome_instance?_of_find? hfind

/-- The history that goes on with a creation reflects the store with one more
instance. -/
theorem next_of_creates (h : Reflects limits past r.store)
    (hcreates : r.creates? = some (name, contract)) :
    Reflects limits (past ++ [r]) r.next := by
  obtain ⟨hreturns, hfinds, hnext⟩ := Record.next_of_creates hcreates
  have hroom := r.store.narrows_roomFor name
  have hlimits : r.next.limits = r.store.limits := by
    rw [hnext]
    exact hroom.limits_eq
  -- The number of the new instance was not in use, so no earlier event counts for it.
  have hfresh : r.store.instance? r.store.instances.length = none :=
    List.getElem?_eq_none (Nat.le_refl _)
  constructor
  case limits_eq => exact hlimits.trans h.limits_eq
  case keys_nodup =>
    rw [hnext]
    exact nodup_bind ((hroom.sublist.map _).nodup h.keys_nodup)
  case size_le =>
    rw [capacity, hlimits, hnext]
    exact size_bind_roomFor_le h.size_le
  case find?_iff =>
    intro name' handle
    rw [bound_append_singleton_iff, ← h.length_instances, ← h.find?_iff]
    by_cases hsame : name' = name
    · subst hsame
      have hload : r.Creates name' := Record.creates_iff.mpr ⟨contract, hcreates⟩
      rw [hnext, find?_bind_self, hroom.instances_eq, Option.some_inj]
      simp [hload, eq_comm]
    · have hother : ¬r.Creates name' := by
        rw [Record.creates_iff, hcreates]
        rintro ⟨contract', hpair⟩
        exact hsame (Prod.mk.inj (Option.some.inj hpair)).1.symm
      rw [Record.find?_next_iff h.keys_nodup hother]
      simp [hother]
  case contracts_eq =>
    rw [created_append_singleton, hcreates, hnext, bind, List.map_append,
      hroom.instances_eq, h.contracts_eq]
    simp
  case latestAccess?_eq =>
    intro handle
    rw [latestAccess?_append_singleton, Record.accesses?_of_creates hcreates,
      Record.instance?_next_of_creates hcreates, h.latestAccess?_eq]
    by_cases hnew : r.store.instances.length = handle
    · simp [hnew]
    · simp [hnew, Ne.symm hnew]
  case returnCount_eq =>
    intro handle
    rw [returnCount_append_singleton, Record.instance?_next_of_creates hcreates, hreturns,
      h.returnCount_eq]
    by_cases hnew : handle = r.store.instances.length
    · simp [hnew, hfresh]
    · simp [hnew]
  case findCount_eq =>
    intro handle text
    rw [findCount_append_singleton, Record.instance?_next_of_creates hcreates, hfinds,
      h.findCount_eq]
    by_cases hnew : handle = r.store.instances.length
    · simp [hnew, hfresh, Hits.of]
    · simp [hnew]

/-- The history that goes on without a creation reflects the store with the instances
used. -/
theorem next_of_none (h : Reflects limits past r.store) (hcreates : r.creates? = none) :
    Reflects limits (past ++ [r]) r.next := by
  have huses := Record.uses_next hcreates
  have hnone {name' : String} : ¬r.Creates name' := by
    rw [Record.creates_iff, hcreates]
    rintro ⟨contract, hsome⟩
    cases hsome
  constructor
  case limits_eq => exact huses.limits_eq.trans h.limits_eq
  case keys_nodup => exact (huses.sublist.map _).nodup h.keys_nodup
  case size_le =>
    rw [capacity, huses.limits_eq]
    exact Nat.le_trans huses.sublist.length_le h.size_le
  case find?_iff =>
    intro name' handle
    rw [bound_append_singleton_iff, ← h.find?_iff, Record.find?_next_iff h.keys_nodup hnone]
    simp [hnone]
  case contracts_eq =>
    rw [created_append_singleton, hcreates, huses.contracts_eq, h.contracts_eq]
    simp
  case latestAccess?_eq =>
    intro handle
    rw [latestAccess?_append_singleton, Record.accesses?_eq_returns? hcreates,
      Record.instance?_next_of_none hcreates, h.latestAccess?_eq]
    by_cases hreturned : r.returns? = some handle
    · obtain ⟨i, hinstance⟩ := Option.isSome_iff_exists.mp
        (h.isSome_instance?_of_returns? hreturned)
      simp [hreturned, hinstance, Record.change]
    · rw [if_neg hreturned, Option.map_map]
      simp [Function.comp_def, Record.change, hreturned]
  -- A number without an instance is neither returned nor does it find a route.
  case returnCount_eq =>
    intro handle
    rw [returnCount_append_singleton, Record.instance?_next_of_none hcreates,
      h.returnCount_eq]
    cases hinstance : r.store.instance? handle with
    | none =>
        have hkept : r.returns? ≠ some handle := by
          intro hreturned
          simpa [hinstance] using h.isSome_instance?_of_returns? hreturned
        simp [hkept]
    | some i => simp [Record.change]
  case findCount_eq =>
    intro handle text
    rw [findCount_append_singleton, Record.instance?_next_of_none hcreates,
      h.findCount_eq]
    cases hinstance : r.store.instance? handle with
    | none =>
        have hkept : r.finds? ≠ some (handle, text) := by
          intro hfound
          simpa [hinstance] using Record.isSome_instance?_of_finds? hfound
        simp [hkept]
    | some i => simp [Record.of_routeHits_change]

theorem next (h : Reflects limits past r.store) : Reflects limits (past ++ [r]) r.next := by
  cases hcreates : r.creates? with
  | none => exact h.next_of_none hcreates
  | some loaded => exact h.next_of_creates hcreates

end Reflects

/-- The state after any run is the one that its history tells. -/
theorem reflects_run (limits : StoreLimits) (start : Instant) (events : List Event) :
    Reflects limits ((empty limits start).history events)
      ((empty limits start).run events) := by
  -- From the end, since the last event meets the store of all events before it.
  induction events using List.reverseRecOn with
  | nil => exact .start limits start
  | append_singleton events event ih =>
      rw [history_append_singleton, run_append_singleton]
      exact @Reflects.next _ { event with store := (empty limits start).run events } _ ih

end Store
end ApiContract
