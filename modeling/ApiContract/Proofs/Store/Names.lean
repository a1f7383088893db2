import ApiContract.Proofs.Text.Lookup
import ApiContract.Store.Basic

/-!
# Names that are freed

Whatever frees names, be it an eviction, a cleanup or the making of room, leaves the
instances alone and binds nothing else.  Making room frees as many names as it is asked
to, and the least recently accessed one first.
-/

namespace ApiContract
namespace Store

variable {store next later : Store} {name : String} {handle : Handle}

/-! ## Freeing names only -/

/-- The second store differs from the first by freed names, and by when it was last
cleaned up. -/
structure Narrows (store next : Store) : Prop where
  limits_eq : next.limits = store.limits
  instances_eq : next.instances = store.instances
  sublist : next.bound.Sublist store.bound

namespace Narrows

theorem refl (store : Store) : store.Narrows store :=
  ⟨rfl, rfl, List.Sublist.refl _⟩

theorem trans (h : store.Narrows next) (h' : next.Narrows later) : store.Narrows later :=
  ⟨h'.limits_eq.trans h.limits_eq, h'.instances_eq.trans h.instances_eq,
    h'.sublist.trans h.sublist⟩

theorem instance?_eq (h : store.Narrows next) (handle : Handle) :
    next.instance? handle = store.instance? handle := by
  rw [instance?, instance?, h.instances_eq]

theorem size_le (h : store.Narrows next) : next.size ≤ store.size :=
  h.sublist.length_le

end Narrows

theorem narrows_remove (store : Store) (name : String) : store.Narrows (store.remove name) :=
  ⟨rfl, rfl, List.filter_sublist⟩

theorem narrows_removeLeast (store : Store) (n : Nat) :
    store.Narrows (store.removeLeast n) := by
  induction n generalizing store with
  | zero => exact .refl store
  | succ n ih =>
      rw [removeLeast]
      cases store.leastRecent? with
      | none => exact .refl store
      | some name => exact (store.narrows_remove name).trans (ih (store.remove name))

theorem narrows_trim (store : Store) (keep : Nat) : store.Narrows (store.trim keep) :=
  store.narrows_removeLeast _

theorem narrows_cleanup (store : Store) (now : Instant) :
    store.Narrows (store.cleanup now).2 := by
  have hswept : store.Narrows (store.sweep now) := ⟨rfl, rfl, List.filter_sublist⟩
  have htrimmed := hswept.trans ((store.sweep now).narrows_trim store.capacity)
  exact ⟨htrimmed.limits_eq, htrimmed.instances_eq, htrimmed.sublist⟩

theorem narrows_maybeCleanup (store : Store) (now : Instant) :
    store.Narrows (store.maybeCleanup now).2 := by
  rw [maybeCleanup]
  split
  · exact store.narrows_cleanup now
  · exact .refl store

/-! ## Making room -/

/-- The least recently accessed name is bound, and no other one was last accessed before
it. -/
theorem exists_of_leastRecent? (h : store.leastRecent? = some name) :
    ∃ handle, (name, handle) ∈ store.bound ∧
      ∀ entry ∈ store.bound, store.lastAccess handle ≤ store.lastAccess entry.2 := by
  obtain ⟨least, hleast, rfl⟩ := Option.map_eq_some_iff.mp h
  refine ⟨least.2, List.minOn?_mem hleast, ?_⟩
  intro entry hentry
  have hle := List.apply_minOn_le_of_mem (f := fun b => store.lastAccess b.2) hentry
  rwa [List.minOn_eq_of_minOn?_eq_some hleast] at hle

theorem leastRecent?_eq_none_iff : store.leastRecent? = none ↔ store.size = 0 := by
  rw [leastRecent?, Option.map_eq_none_iff, ← Option.not_isSome_iff_eq_none,
    List.isSome_minOn?_iff, not_not, size, List.length_eq_zero_iff]

theorem size_remove_lt (h : (name, handle) ∈ store.bound) :
    (store.remove name).size < store.size := by
  apply List.length_filter_lt_length_iff_exists.mpr
  exact ⟨(name, handle), h, by simp⟩

theorem size_removeLeast_le (store : Store) (n : Nat) :
    (store.removeLeast n).size ≤ store.size - n := by
  induction n generalizing store with
  | zero => exact Nat.le_refl _
  | succ n ih =>
      rw [removeLeast]
      cases hleast : store.leastRecent? with
      | none =>
          have hempty := leastRecent?_eq_none_iff.mp hleast
          simp only [hempty]
          omega
      | some name =>
          obtain ⟨handle, hmem, -⟩ := exists_of_leastRecent? hleast
          have hless := size_remove_lt hmem
          have hrest := ih (store.remove name)
          simp only
          omega

/-- After making room, at most as many names are bound as shall be kept. -/
theorem size_trim_le (store : Store) (keep : Nat) : (store.trim keep).size ≤ keep := by
  have hsize := store.size_removeLeast_le (store.size - keep)
  rw [trim]
  omega

/-- When one name is too many, the least recently accessed one is freed. -/
theorem trim_eq_remove {keep : Nat} (hsize : store.size = keep + 1)
    (hleast : store.leastRecent? = some name) : store.trim keep = store.remove name := by
  have hone : store.size - keep = 1 := by omega
  rw [trim, hone, removeLeast, hleast]
  rfl

theorem trim_eq_self {keep : Nat} (hsize : store.size ≤ keep) :
    store.trim keep = store := by
  rw [trim, Nat.sub_eq_zero_of_le hsize, removeLeast]

/-! ## Names that are bound -/

theorem find?_eq_some_iff_mem (hkeys : (store.bound.map (·.1)).Nodup) :
    store.find? name = some handle ↔ (name, handle) ∈ store.bound :=
  lookup_eq_some_iff_mem hkeys

/-- Freeing a bound name leaves one name less. -/
theorem size_remove_add_one (hkeys : (store.bound.map (·.1)).Nodup)
    (hfind : store.find? name = some handle) : (store.remove name).size + 1 = store.size := by
  have hmem : name ∈ store.bound.map (·.1) :=
    List.mem_map.mpr ⟨(name, handle), mem_of_lookup hfind, rfl⟩
  have hnames : (store.remove name).bound.map (·.1) = (store.bound.map (·.1)).erase name := by
    rw [hkeys.erase_eq_filter, List.filter_map, remove]
    congr 1
    apply List.filter_congr
    intro entry _
    by_cases hentry : entry.1 = name <;> simp [hentry]
  have hlength := congrArg List.length hnames
  have hpos := List.length_pos_of_mem hmem
  rw [List.length_erase_of_mem hmem, List.length_map, List.length_map] at hlength
  rw [List.length_map] at hpos
  rw [size, size]
  omega

theorem find?_remove_of_ne {other : String} (h : name ≠ other) :
    (store.remove other).find? name = store.find? name :=
  lookup_filter_ne h

theorem remove_eq_self (h : store.find? name = none) : store.remove name = store := by
  have hkept : store.bound.filter (fun entry => entry.1 ≠ name) = store.bound := by
    apply List.filter_eq_self.mpr
    intro entry hentry
    have hne := bne_iff_ne.mp (List.lookup_eq_none_iff.mp h entry hentry)
    exact decide_eq_true hne.symm
  rw [remove, hkept]

theorem find?_remove_self (store : Store) (name : String) :
    (store.remove name).find? name = none := by
  rw [find?, List.lookup_eq_none_iff]
  intro entry hentry
  have hne : entry.1 ≠ name := by simpa using (List.mem_filter.mp hentry).2
  exact bne_iff_ne.mpr hne.symm

/-- A name that stays bound is bound to the same instance. -/
theorem Narrows.find?_eq_some (h : store.Narrows next)
    (hkeys : (store.bound.map (·.1)).Nodup) (hfind : next.find? name = some handle) :
    store.find? name = some handle := by
  rw [find?_eq_some_iff_mem hkeys]
  exact h.sublist.subset (mem_of_lookup hfind)

end Store
end ApiContract
