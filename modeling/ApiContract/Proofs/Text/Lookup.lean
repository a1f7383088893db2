import Mathlib.Data.List.Nodup

/-!
# Looking up keys

In a list with different keys, a key leads to a value exactly where both stand together.
-/

namespace ApiContract

variable {α : Type} {entries : List (String × α)} {key : String} {value : α}

theorem mem_of_lookup (h : entries.lookup key = some value) : (key, value) ∈ entries := by
  obtain ⟨before, after, rfl, -⟩ := List.lookup_eq_some_iff.mp h
  simp

theorem lookup_eq_some_iff_mem (hkeys : (entries.map (·.1)).Nodup) :
    entries.lookup key = some value ↔ (key, value) ∈ entries := by
  constructor
  · exact mem_of_lookup
  · intro hmem
    induction entries with
    | nil => cases hmem
    | cons entry rest ih =>
        obtain ⟨other, found⟩ := entry
        obtain ⟨hfresh, hrest⟩ := List.nodup_cons.mp hkeys
        rcases List.mem_cons.mp hmem with heq | htail
        · obtain ⟨rfl, rfl⟩ := Prod.mk.inj heq
          exact List.lookup_cons_self
        · have hne : key ≠ other := by
            rintro rfl
            exact hfresh (List.mem_map.mpr ⟨(key, value), htail, rfl⟩)
          rw [List.lookup_cons, beq_false_of_ne hne]
          exact ih hrest htail

/-- Without the entries of one key, the other keys lead where they did. -/
theorem lookup_filter_ne {other : String} (h : key ≠ other) :
    (entries.filter fun entry => entry.1 ≠ other).lookup key = entries.lookup key := by
  induction entries with
  | nil => rfl
  | cons entry rest ih =>
      by_cases hentry : entry.1 = other
      · have hne : key ≠ entry.1 := hentry ▸ h
        rw [List.filter_cons_of_neg (by simpa using hentry), ih, List.lookup_cons,
          beq_false_of_ne hne]
      · rw [List.filter_cons_of_pos (by simpa using hentry), List.lookup_cons,
          List.lookup_cons, ih]

end ApiContract
