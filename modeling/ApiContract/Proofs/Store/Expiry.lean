import ApiContract.Proofs.Contract.Refusals
import ApiContract.Proofs.Guard.Receive
import ApiContract.Proofs.Store.Recency
import Mathlib.Data.Finset.Card

/-!
# Expiry

A cleanup frees the names whose instances were idle for too long as of its time, and
nothing else: no more names are bound than may be, so that there is nothing to trim after
the sweep.  A store that is swept stays so until an instance is accessed.  A guard that
cleans up before it judges frees no name that was in use lately.
-/

namespace ApiContract
namespace Store

variable {store kept : Store} {name : String} {handle : Handle} {limits : StoreLimits}
  {past : List Record} {r : Record} {now : Instant}

/-! ## What a cleanup frees -/

theorem Narrows.isExpired_eq (h : store.Narrows kept) (now : Instant) (handle : Handle) :
    kept.isExpired now handle = store.isExpired now handle := by
  rw [isExpired, isExpired, lastAccess, lastAccess, h.limits_eq, h.instance?_eq]

theorem Narrows.names_subset (h : store.Narrows kept)
    (hkeys : (store.bound.map (·.1)).Nodup) : kept.names.toFinset ⊆ store.names.toFinset := by
  intro name hname
  rw [List.mem_toFinset, mem_names_iff] at hname ⊢
  exact hname.imp fun _ hfind => h.find?_eq_some hkeys hfind

theorem card_names (hkeys : (store.bound.map (·.1)).Nodup) :
    store.names.toFinset.card = store.size := by
  have hperm : store.names.Perm (store.bound.map (·.1)) := List.mergeSort_perm _ _
  rw [List.toFinset_card_of_nodup (hperm.nodup_iff.mpr hkeys), hperm.length_eq,
    List.length_map, size]

/-- A cleanup tells how many names it frees. -/
theorem cleanup_fst_eq (hkeys : (store.bound.map (·.1)).Nodup) (now : Instant) :
    (store.cleanup now).1 =
      (store.names.toFinset \ (store.cleanup now).2.names.toFinset).card := by
  have hnarrows := store.narrows_cleanup now
  have hkeys' := (hnarrows.sublist.map (·.1)).nodup hkeys
  rw [Finset.card_sdiff_of_subset (hnarrows.names_subset hkeys), card_names hkeys,
    card_names hkeys']
  rfl

/-- There is nothing to trim after a sweep. -/
theorem trim_sweep (hsize : store.size ≤ store.capacity) (now : Instant) :
    (store.sweep now).trim store.capacity = store.sweep now :=
  trim_eq_self (Nat.le_trans (List.length_filter_le _ _) hsize)

namespace Reflects

/-- An instance is expired if it was idle for too long since its latest access. -/
theorem isExpired_iff (h : Reflects limits past store) (hbound : Bound past name handle)
    {accessed : Instant} (haccess : latestAccess? past handle = some accessed)
    (now : Instant) :
    store.isExpired now handle = true ↔
      nanoseconds limits.expirySeconds < now - accessed := by
  obtain rfl := Option.some.inj (haccess.symm.trans (h.latestAccess?_of_bound hbound))
  rw [isExpired, h.limits_eq, decide_eq_true_iff]

/-- A cleanup keeps the names of instances that are not expired. -/
theorem find?_cleanup_iff (h : Reflects limits past store) :
    (store.cleanup now).2.find? name = some handle ↔
      store.find? name = some handle ∧ store.isExpired now handle = false := by
  have hkeys := ((store.narrows_cleanup now).sublist.map (·.1)).nodup h.keys_nodup
  rw [find?_eq_some_iff_mem hkeys, mem_bound_cleanup_iff h.size_le,
    ← find?_eq_some_iff_mem h.keys_nodup]

theorem find?_cleanup_eq_none_iff (h : Reflects limits past store)
    (hfind : store.find? name = some handle) :
    (store.cleanup now).2.find? name = none ↔ store.isExpired now handle = true := by
  rw [← Bool.not_eq_false, Option.eq_none_iff_forall_ne_some]
  simp only [ne_eq, h.find?_cleanup_iff, hfind, Option.some_inj, not_and]
  constructor
  · intro hnone
    exact hnone handle rfl
  · rintro hexpired _ rfl
    exact hexpired

/-- The cleanup before a judgement keeps what is not expired. -/
theorem find?_maybeCleanup (h : Reflects limits past store)
    (hfind : store.find? name = some handle) (hfresh : store.isExpired now handle = false) :
    (store.maybeCleanup now).2.find? name = some handle := by
  have hkeys := ((store.narrows_maybeCleanup now).sublist.map (·.1)).nodup h.keys_nodup
  rw [find?_eq_some_iff_mem hkeys, mem_bound_maybeCleanup_iff h.size_le]
  refine ⟨mem_of_lookup hfind, ?_⟩
  rintro ⟨-, hexpired⟩
  exact Bool.false_ne_true (hfresh.symm.trans hexpired)

end Reflects

/-! ## Swept stores -/

/-- An event that accesses no instance changes no last access. -/
theorem Record.lastAccess_next (h : r.accesses? = none) (handle : Handle) :
    r.next.lastAccess handle = r.store.lastAccess handle := by
  obtain ⟨hcreates, hreturns⟩ := accesses?_eq_none_iff.mp h
  rw [lastAccess, instance?_next_of_none hcreates, Option.map_map, lastAccess]
  congr 2
  funext i
  simp [change, hreturns]

/-- A cleanup as of this time finds nothing to free. -/
structure Swept (store : Store) (now : Instant) : Prop where
  size_le : store.size ≤ store.capacity
  not_expired : ∀ entry ∈ store.bound, store.isExpired now entry.2 = false

theorem swept_cleanup (hsize : store.size ≤ store.capacity) (now : Instant) :
    (store.cleanup now).2.Swept now := by
  have hnarrows := store.narrows_cleanup now
  constructor
  case size_le =>
    rw [capacity, hnarrows.limits_eq]
    exact Nat.le_trans hnarrows.size_le hsize
  case not_expired =>
    intro entry hentry
    rw [hnarrows.isExpired_eq]
    exact ((mem_bound_cleanup_iff hsize).mp hentry).2

namespace Swept

theorem cleanup_eq (h : store.Swept now) :
    store.cleanup now = (0, { store with lastCleanup := now }) := by
  have hkept : store.sweep now = store := by
    have hbound : store.bound.filter (fun b => !store.isExpired now b.2) = store.bound := by
      apply List.filter_eq_self.mpr
      intro entry hentry
      rw [h.not_expired entry hentry, Bool.not_false]
    rw [sweep, hbound]
  rw [cleanup, hkept, trim_eq_self h.size_le, Nat.sub_self]

/-- An event that accesses no instance leaves a store swept. -/
theorem next (h : r.store.Swept now) (hnone : r.accesses? = none) : r.next.Swept now := by
  have huses := Record.uses_next (Record.accesses?_eq_none_iff.mp hnone).1
  constructor
  case size_le =>
    rw [capacity, huses.limits_eq]
    exact Nat.le_trans huses.sublist.length_le h.size_le
  case not_expired =>
    intro entry hentry
    rw [isExpired, huses.limits_eq, Record.lastAccess_next hnone]
    exact h.not_expired entry (huses.sublist.subset hentry)

/-- A store stays swept while no instance is accessed. -/
theorem run {events : List Event} (h : store.Swept now)
    (hnone : ∀ r ∈ store.history events, r.accesses? = none) :
    (store.run events).Swept now := by
  induction events generalizing store with
  | nil => exact h
  | cons event events ih =>
      obtain ⟨hfirst, hrest⟩ := List.forall_mem_cons.mp hnone
      exact ih (@Swept.next { event with store } now h hfirst) hrest

end Swept
end Store

/-! ## Cleaning up before judging -/

namespace Guard

variable {guard : Guard} {request : Request} {hint : Option String} {api : String}
  {now : Instant}

/-- A guard judges by the contract under the selected name, though it cleans up first, if
that was in use lately. -/
theorem verdict_of_fresh {limits : StoreLimits} {past : List Store.Record} {handle : Handle}
    (h : Store.Reflects limits past guard.store)
    (hselect : guard.selector.select request = some api)
    (hfind : guard.store.find? api = some handle)
    (hfresh : guard.store.isExpired now handle = false) :
    ∃ i, guard.store.instance? handle = some i ∧
      (guard.judge request hint now).1.verdict =
        (i.contract.judge request hint i.routeHits).1 := by
  obtain ⟨i, hinstance⟩ := Option.isSome_iff_exists.mp (h.isSome_instance?_of_find? hfind)
  have hnarrows := guard.store.narrows_maybeCleanup now
  have hkept := h.find?_maybeCleanup hfind hfresh
  have hbound : (guard.store.maybeCleanup now).2.bound? api = some i := by
    rw [Store.bound?, hkept, Option.bind_some, hnarrows.instance?_eq, hinstance]
  refine ⟨i, hinstance, ?_⟩
  rw [verdict_eq_of_select rfl hselect, judgeBy_fst_eq, hbound]

end Guard

namespace Store

/-- A cleanup frees exactly the names whose instances were last accessed longer ago than
the store allows, where an access that lies ahead counts as one at the time of the
cleanup; it trims nothing more, leaves what is kept as it is, and tells how many names it
frees.  Another cleanup as of the same time frees nothing if no instance was accessed in
between.  A guard that cleans up before it judges a request never reports that there is no
contract under the selected name if that is bound and was in use lately. -/
theorem cleanup_exact (limits : StoreLimits) (start : Instant) (events : List Event)
    (now : Instant) :
    let past := (empty limits start).history events
    let store := (empty limits start).run events
    let next := (store.cleanup now).2
    (∀ name handle, Bound past name handle →
        ∃ accessed, latestAccess? past handle = some accessed ∧
          (next.find? name = none ↔
            nanoseconds limits.expirySeconds < now - accessed)) ∧
      (∀ name handle, next.find? name = some handle → store.find? name = some handle) ∧
      next.instances = store.instances ∧
      (store.sweep now).trim store.capacity = store.sweep now ∧
      (store.cleanup now).1 = (store.names.toFinset \ next.names.toFinset).card ∧
      (∀ later, (∀ r ∈ next.history later, r.accesses? = none) →
        ((next.run later).cleanup now).1 = 0 ∧
          ((next.run later).cleanup now).2.bound = (next.run later).bound) ∧
      ∀ (selector : Selector) (bodyLimit : Nat) request hint api handle accessed,
        selector.select request = some api → Bound past api handle →
          latestAccess? past handle = some accessed →
            now - accessed ≤ nanoseconds limits.expirySeconds →
              ∃ i, store.instance? handle = some i ∧
                let report := (Guard.judge { store, selector, bodyLimit } request hint now).1
                report.verdict = (i.contract.judge request hint i.routeHits).1 ∧
                  ∀ name, report.verdict ≠ .error (.contractNotFound name) := by
  intro past store next
  have h : Reflects limits past store := reflects_run limits start events
  refine ⟨?_, ?_, (store.narrows_cleanup now).instances_eq, trim_sweep h.size_le now,
    cleanup_fst_eq h.keys_nodup now, ?_, ?_⟩
  · intro name handle hbound
    have haccess := h.latestAccess?_of_bound hbound
    refine ⟨_, haccess, ?_⟩
    rw [h.find?_cleanup_eq_none_iff ((h.find?_iff name handle).mpr hbound),
      h.isExpired_iff hbound haccess]
  · intro name handle hkept
    exact (h.find?_cleanup_iff.mp hkept).1
  · intro later hnone
    have hswept := (swept_cleanup h.size_le now).run hnone
    rw [hswept.cleanup_eq]
    exact ⟨rfl, rfl⟩
  · intro selector bodyLimit request hint api handle accessed hselect hbound haccess hidle
    have hfind := (h.find?_iff api handle).mpr hbound
    have hfresh : store.isExpired now handle = false := by
      rw [← Bool.not_eq_true, h.isExpired_iff hbound haccess]
      exact Nat.not_lt.mpr hidle
    obtain ⟨i, hinstance, hverdict⟩ := @Guard.verdict_of_fresh
      { store, selector, bodyLimit } request hint api now limits past handle h hselect hfind
      hfresh
    refine ⟨i, hinstance, hverdict, ?_⟩
    intro name hmissing
    rw [hverdict] at hmissing
    have hstatus := i.contract.blamesRequest_judge request hint i.routeHits _ hmissing
    cases hstatus

/-- Cats were asked for as long ago as the store allows, and dogs were loaded before, so
that only dogs are freed. -/
theorem cleanup_exact_petEvents :
    let store := (empty { maxApis := 2 } 0).run petEvents
    let now := nanoseconds 259200 + 3
    let next := (store.cleanup now).2
    next.find? "dogs" = none ∧ next.find? "cats" = some 0 ∧ (store.cleanup now).1 = 1 ∧
      (next.cleanup now).1 = 0 ∧
        ∀ request name,
          (Guard.judge { store, selector := .fixed "cats" } request none now).1.verdict ≠
            .error (.contractNotFound name) := by
  intro store now next
  have hstore : store = petStore := run_petEvents
  have h : Reflects { maxApis := 2 } ((empty { maxApis := 2 } 0).history petEvents) store :=
    reflects_run _ 0 petEvents
  have hcats := (h.find?_iff "cats" 0).mp (hstore ▸ rfl)
  have hdogs := (h.find?_iff "dogs" 1).mp (hstore ▸ rfl)
  have hcatsLast := h.latestAccess?_eq 0
  have hdogsLast := h.latestAccess?_eq 1
  rw [hstore] at hcatsLast hdogsLast
  have hcatsIdle : now - 3 = nanoseconds 259200 := Nat.add_sub_cancel _ 3
  have hdogsIdle : nanoseconds 259200 < now - 2 := by
    change nanoseconds 259200 < nanoseconds 259200 + 3 - 2
    omega
  obtain ⟨hfreed, hkept, -, -, hcount, hagain, hguard⟩ :=
    cleanup_exact { maxApis := 2 } 0 petEvents now
  have hdogs' : next.find? "dogs" = none := by
    obtain ⟨accessed, hlast, hfree⟩ := hfreed "dogs" 1 hdogs
    obtain rfl : 2 = accessed := Option.some.inj (hdogsLast.symm.trans hlast)
    exact hfree.mpr hdogsIdle
  have hcats' : next.find? "cats" = some 0 := by
    obtain ⟨accessed, hlast, hfree⟩ := hfreed "cats" 0 hcats
    obtain rfl : 3 = accessed := Option.some.inj (hcatsLast.symm.trans hlast)
    have hbound : next.find? "cats" ≠ none := by
      rw [Ne, hfree, hcatsIdle]
      exact Nat.lt_irrefl _
    obtain ⟨handle, hfind⟩ := Option.ne_none_iff_exists'.mp hbound
    have hbefore : petStore.find? "cats" = some handle := hstore ▸ hkept "cats" handle hfind
    obtain rfl : 0 = handle := Option.some.inj hbefore
    exact hfind
  have hnames : store.names.toFinset \ next.names.toFinset = {"dogs"} := by
    ext name
    simp only [Finset.mem_sdiff, List.mem_toFinset, mem_names_iff, Finset.mem_singleton]
    constructor
    · rintro ⟨⟨handle, hfind⟩, hfreed⟩
      rw [hstore] at hfind
      have hmem : (name, handle) ∈ petStore.bound := mem_of_lookup hfind
      obtain ⟨rfl, -⟩ | ⟨rfl, -⟩ : name = "dogs" ∧ handle = 1 ∨ name = "cats" ∧ handle = 0 := by
        simpa [petStore] using hmem
      · rfl
      · exact absurd ⟨0, hcats'⟩ hfreed
    · rintro rfl
      exact ⟨⟨1, hstore ▸ rfl⟩, by simp [hdogs']⟩
  refine ⟨hdogs', hcats', ?_, ?_, ?_⟩
  · rw [hcount, hnames, Finset.card_singleton]
  · exact (hagain [] (by simp [history])).1
  · intro request name
    have hselect : (Selector.fixed "cats").select request = some "cats" := by
      simp [Selector.select]
    obtain ⟨i, -, -, hfound⟩ := hguard (.fixed "cats") defaultBodyLimit request none "cats" 0 3
      hselect hcats hcatsLast hcatsIdle.le
    exact hfound name

end Store
end ApiContract
