import ApiContract.Proofs.Store.History

/-!
# What frees a name

A name is freed when it or every name is evicted, when a cleanup finds its instance idle
for too long, and when it is the least recently accessed one of a full store and a new
name is loaded.  Nothing else frees a name; in particular a cleanup never finds more
names than the store may hold.
-/

namespace ApiContract
namespace Store

variable {store : Store} {name : String} {handle : Handle} {limits : StoreLimits}
  {past : List Record} {r : Record}

namespace Record

/-- The time as of which the event cleans up, if it does. -/
def cleansAsOf? (r : Record) : Option Instant :=
  match r.action with
  | .cleanup asOf => some asOf
  | .maybeCleanup | .judge .. =>
      if nanoseconds r.store.limits.cleanupSeconds ≤ r.time - r.store.lastCleanup then
        some r.time
      else none
  | _ => none

/-- The event evicts the name, or cleans up after the instance expired. -/
inductive Dismisses (r : Record) (name : String) (handle : Handle) : Prop where
  | evict (haction : r.action = .evict name)
  | evictAll (haction : r.action = .evictAll)
  | expired {asOf : Instant} (hclean : r.cleansAsOf? = some asOf)
      (hexpired : r.store.isExpired asOf handle = true)

/-- The event loads a new name into a full store, of which the name is the least recently
accessed one. -/
structure Displaces (r : Record) (name : String) : Prop where
  exists_creates : ∃ other, r.Creates other ∧ r.store.find? other = none
  size_eq : r.store.size = r.store.capacity
  leastRecent?_eq : r.store.leastRecent? = some name

end Record

/-! ## Cleaning up -/

theorem mem_bound_cleanup_iff {now : Instant} {entry : String × Handle}
    (hsize : store.size ≤ store.capacity) :
    entry ∈ (store.cleanup now).2.bound ↔
      entry ∈ store.bound ∧ store.isExpired now entry.2 = false := by
  -- No more names are bound than may be, so the sweep leaves nothing to trim.
  have hswept : (store.sweep now).size ≤ store.capacity :=
    Nat.le_trans (List.length_filter_le _ _) hsize
  have hkept : (store.cleanup now).2.bound = (store.sweep now).bound := by
    rw [cleanup, trim_eq_self hswept]
  simp [hkept, sweep]

theorem mem_bound_maybeCleanup_iff {now : Instant} {entry : String × Handle}
    (hsize : store.size ≤ store.capacity) :
    entry ∈ (store.maybeCleanup now).2.bound ↔
      entry ∈ store.bound ∧
        ¬(nanoseconds store.limits.cleanupSeconds ≤ now - store.lastCleanup ∧
          store.isExpired now entry.2 = true) := by
  rw [maybeCleanup]
  by_cases hdue : nanoseconds store.limits.cleanupSeconds ≤ now - store.lastCleanup
  · rw [if_pos hdue, mem_bound_cleanup_iff hsize]
    simp [hdue]
  · simp [hdue]

namespace Record

theorem dismisses_iff :
    r.Dismisses name handle ↔
      r.action = .evict name ∨ r.action = .evictAll ∨
        ∃ asOf, r.cleansAsOf? = some asOf ∧ r.store.isExpired asOf handle = true := by
  constructor
  · rintro (haction | haction | ⟨hclean, hexpired⟩)
    · exact Or.inl haction
    · exact Or.inr (Or.inl haction)
    · exact Or.inr (Or.inr ⟨_, hclean, hexpired⟩)
  · rintro (haction | haction | ⟨asOf, hclean, hexpired⟩)
    · exact .evict haction
    · exact .evictAll haction
    · exact .expired hclean hexpired

/-- What an event does not dismiss, it keeps. -/
theorem mem_bound_kept_iff {entry : String × Handle}
    (hsize : r.store.size ≤ r.store.capacity) :
    entry ∈ r.kept.bound ↔ entry ∈ r.store.bound ∧ ¬r.Dismisses entry.1 entry.2 := by
  obtain ⟨⟨time, action⟩, store⟩ := r
  rw [dismisses_iff]
  cases action with
  | evict name => simp [kept, remove, cleansAsOf?, eq_comm (a := name)]
  | evictAll => simp [kept, evictAll]
  | cleanup asOf =>
      refine (mem_bound_cleanup_iff hsize).trans ?_
      simp [cleansAsOf?]
  | maybeCleanup =>
      refine (mem_bound_maybeCleanup_iff hsize).trans ?_
      simp [cleansAsOf?]
  | judge selector request hint =>
      refine (mem_bound_maybeCleanup_iff hsize).trans ?_
      simp [cleansAsOf?]
  | _ => simp [kept, cleansAsOf?]

/-- A load evicts nothing and does not clean up. -/
theorem Creates.not_dismisses {loaded : String} (h : r.Creates loaded) :
    ¬r.Dismisses name handle := by
  obtain ⟨content, hsource, -⟩ := h
  rw [dismisses_iff, cleansAsOf?]
  cases haction : r.action <;> simp_all [Action.source?]

end Record

/-! ## Making room -/

/-- A new name finds room, or takes that of the least recently accessed one. -/
theorem roomFor_cases (hsize : store.size ≤ store.capacity) (hnew : store.find? name = none) :
    store.size < store.capacity ∧ store.roomFor name = store ∨
      store.size = store.capacity ∧
        ∃ victim, store.leastRecent? = some victim ∧
          store.roomFor name = store.remove victim := by
  have hpos : 1 ≤ store.capacity := Nat.le_max_right _ _
  have hroom : store.roomFor name = store.trim (store.capacity - 1) := by
    rw [roomFor, hnew, Option.isSome_none, if_neg Bool.false_ne_true]
  rcases Nat.lt_or_eq_of_le hsize with hless | hfull
  · exact Or.inl ⟨hless, hroom.trans (trim_eq_self (by omega))⟩
  · obtain ⟨victim, hvictim⟩ : ∃ victim, store.leastRecent? = some victim := by
      rw [← Option.ne_none_iff_exists', Ne, leastRecent?_eq_none_iff]
      omega
    exact Or.inr ⟨hfull, victim, hvictim, hroom.trans (trim_eq_remove (by omega) hvictim)⟩

/-- A store that is full is so after one more name is bound. -/
theorem size_bind_roomFor_of_full {contract : Contract} {now : Instant}
    (hkeys : (store.bound.map (·.1)).Nodup) (hfull : store.size = store.capacity) :
    ((store.roomFor name).bind name contract now).size = store.capacity := by
  have hbind (room : Store) :
      (room.bind name contract now).size = (room.remove name).size + 1 := rfl
  rw [hbind]
  cases hfind : store.find? name with
  | some handle =>
      rw [roomFor, hfind, Option.isSome_some, if_pos rfl, size_remove_add_one hkeys hfind, hfull]
  | none =>
      obtain ⟨hless, -⟩ | ⟨-, victim, hvictim, hroom⟩ := roomFor_cases (Nat.le_of_eq hfull) hfind
      · omega
      · obtain ⟨held, hmem, -⟩ := exists_of_leastRecent? hvictim
        have hfreed := size_remove_add_one hkeys ((find?_eq_some_iff_mem hkeys).mpr hmem)
        have hunbound : (store.roomFor name).find? name = none := by
          rw [hroom]
          by_contra hbound
          obtain ⟨other, hother⟩ := Option.ne_none_iff_exists'.mp hbound
          have hstill := (store.narrows_remove victim).find?_eq_some hkeys hother
          rw [hfind] at hstill
          cases hstill
        rw [remove_eq_self hunbound, hroom, hfreed, hfull]

/-- The name that makes room is the least recently accessed one of a full store. -/
theorem find?_roomFor_eq_none_iff {loaded : String} (hsize : store.size ≤ store.capacity)
    (hfind : store.find? name = some handle) :
    (store.roomFor loaded).find? name = none ↔
      store.find? loaded = none ∧ store.size = store.capacity ∧
        store.leastRecent? = some name := by
  cases hloaded : store.find? loaded with
  | some held =>
      rw [roomFor, hloaded, Option.isSome_some, if_pos rfl, hfind]
      simp
  | none =>
      rcases roomFor_cases hsize hloaded with ⟨hless, hroom⟩ | ⟨hfull, victim, hvictim, hroom⟩
      · rw [hroom, hfind]
        simp [Nat.ne_of_lt hless]
      · rw [hroom, hvictim]
        by_cases hname : name = victim
        · simp [hname, find?_remove_self, hfull]
        · rw [find?_remove_of_ne hname, hfind]
          simp [Ne.symm hname]

namespace Record

theorem Creates.eq {other : String} (h : r.Creates name) (h' : r.Creates other) :
    name = other := by
  obtain ⟨content, hsource, -⟩ := h
  obtain ⟨content', hsource', -⟩ := h'
  exact (Prod.mk.inj (Option.some.inj (hsource.symm.trans hsource'))).1

/-- A name under which nothing is created is kept with its instance unless it is
freed. -/
theorem find?_next_eq (hkeys : (r.store.bound.map (·.1)).Nodup) (hnone : ¬r.Creates name)
    (hkept : ¬r.Frees name) : r.next.find? name = r.store.find? name := by
  apply Option.ext
  intro handle
  exact (find?_next_iff hkeys hnone).trans (and_iff_right hkept)

theorem Frees.exists_find? (h : r.Frees name) : ∃ handle, r.store.find? name = some handle :=
  mem_names_iff.mp h.1

theorem Displaces.exists_find? (hkeys : (r.store.bound.map (·.1)).Nodup)
    (h : r.Displaces name) : ∃ handle, r.store.find? name = some handle := by
  obtain ⟨handle, hmem, -⟩ := exists_of_leastRecent? h.leastRecent?_eq
  exact ⟨handle, (find?_eq_some_iff_mem hkeys).mpr hmem⟩

theorem frees_iff_find?_next (hfind : r.store.find? name = some handle) :
    r.Frees name ↔ r.next.find? name = none := by
  rw [Frees, mem_names_iff, mem_names_iff, Option.eq_none_iff_forall_ne_some]
  simp [hfind]

theorem Creates.displaces_iff {loaded : String} (h : r.Creates loaded) :
    r.Displaces name ↔
      r.store.find? loaded = none ∧ r.store.size = r.store.capacity ∧
        r.store.leastRecent? = some name := by
  constructor
  · rintro ⟨⟨other, hother, hnew⟩, hfull, hleast⟩
    obtain rfl := h.eq hother
    exact ⟨hnew, hfull, hleast⟩
  · rintro ⟨hnew, hfull, hleast⟩
    exact ⟨⟨loaded, h, hnew⟩, hfull, hleast⟩

theorem Creates.frees_iff_of_find? {loaded : String} (h : r.Creates loaded)
    (hsize : r.store.size ≤ r.store.capacity) (hfind : r.store.find? name = some handle) :
    r.Frees name ↔ r.Displaces name := by
  obtain ⟨contract, hcreates⟩ := creates_iff.mp h
  rw [frees_iff_find?_next hfind, (next_of_creates hcreates).2.2, h.displaces_iff]
  by_cases hname : name = loaded
  · subst hname
    simp [find?_bind_self, hfind]
  · rw [find?_bind_of_ne hname, find?_roomFor_eq_none_iff hsize hfind]

/-- A load frees the name that it displaces, and no other. -/
theorem Creates.frees_iff {loaded : String} (h : r.Creates loaded)
    (hkeys : (r.store.bound.map (·.1)).Nodup) (hsize : r.store.size ≤ r.store.capacity) :
    r.Frees name ↔ r.Displaces name := by
  constructor
  · intro hfrees
    obtain ⟨handle, hfind⟩ := hfrees.exists_find?
    exact (h.frees_iff_of_find? hsize hfind).mp hfrees
  · intro hdisplaces
    obtain ⟨handle, hfind⟩ := hdisplaces.exists_find? hkeys
    exact (h.frees_iff_of_find? hsize hfind).mpr hdisplaces

/-- What frees a name: that it is dismissed or displaced, and nothing else. -/
theorem frees_iff (hkeys : (r.store.bound.map (·.1)).Nodup)
    (hsize : r.store.size ≤ r.store.capacity) (hfind : r.store.find? name = some handle) :
    r.Frees name ↔ r.Dismisses name handle ∨ r.Displaces name := by
  by_cases hloads : ∃ loaded, r.Creates loaded
  · obtain ⟨loaded, hload⟩ := hloads
    rw [hload.frees_iff_of_find? hsize hfind]
    simp [hload.not_dismisses]
  · have hnone : ¬r.Creates name := fun h => hloads ⟨name, h⟩
    have hdisplaces : ¬r.Displaces name := fun h =>
      hloads (h.exists_creates.imp fun _ => And.left)
    have hcreates : r.creates? = none := by
      rw [Option.eq_none_iff_forall_ne_some]
      rintro ⟨loaded, contract⟩ hcreates
      exact hloads ⟨loaded, creates_iff.mpr ⟨contract, hcreates⟩⟩
    -- Without a load, what stays bound is what the event does not dismiss.
    have huses := uses_next hcreates
    have hkept : r.next.find? name = some handle ↔
        ¬r.Frees name ∧ r.store.find? name = some handle := find?_next_iff hkeys hnone
    rw [find?_eq_some_iff_mem ((huses.sublist.map _).nodup hkeys), huses.bound_eq,
      mem_bound_kept_iff hsize, ← find?_eq_some_iff_mem hkeys] at hkept
    simp only [hfind, true_and, and_true] at hkept
    rw [or_iff_left hdisplaces, ← not_iff_not, ← hkept]

end Record

end Store
end ApiContract
