import ApiContract.Pattern.Syntax
import ApiContract.Proofs.Pattern.Matches

/-!
# Alternatives that become a class

Alternatives that are characters, or classes, are read as one class.  That changes how large a
pattern is, and not what it matches: the union of ordered ranges holds the code points of either.
-/

namespace ApiContract

/-! ## Unions of ordered ranges -/

namespace Unicode.Ranges

variable {a b set ranges : Ranges} {low high n : ℕ}

/-- The ranges begin one after the other. -/
def IsOrdered (set : Ranges) : Prop :=
  set.Pairwise fun r s => decide (r.1 ≤ s.1) = true

theorem contains_cons {r : ℕ × ℕ} :
    contains (r :: set) n = true ↔ (r.1 ≤ n ∧ n ≤ r.2) ∨ set.contains n = true := by
  simp [contains]

theorem merge_eq (a b : Ranges) : merge a b = List.merge a b fun r s => decide (r.1 ≤ s.1) := by
  fun_induction merge a b with
  | case1 => simp
  | case2 => simp
  | case3 al ah as bl bh bs hle ih => simp [hle, ih]
  | case4 al ah as bl bh bs hlt ih => simp [hlt, ih]

theorem contains_merge :
    (merge a b).contains n = true ↔ a.contains n = true ∨ b.contains n = true := by
  simp only [merge_eq, contains, List.any_eq_true, List.mem_merge, or_and_right, exists_or]

theorem isOrdered_merge (ha : a.IsOrdered) (hb : b.IsOrdered) : (merge a b).IsOrdered := by
  rw [merge_eq]
  apply List.pairwise_merge _ _ a b ha hb
  · intro r s t
    simp only [decide_eq_true_eq]
    exact Nat.le_trans
  · intro r s
    simp only [Bool.or_eq_true, decide_eq_true_eq]
    exact Nat.le_total r.1 s.1

/-- A range is added that begins before all others. -/
theorem push_spec (hset : set.IsOrdered) (hfirst : ∀ r ∈ set, low ≤ r.1) :
    (push low high set).IsOrdered ∧ (∀ r ∈ push low high set, low ≤ r.1) ∧
      ∀ n, (push low high set).contains n = true ↔
        (low ≤ n ∧ n ≤ high) ∨ set.contains n = true := by
  fun_induction push low high set with
  | case1 high => simp [IsOrdered, contains]
  | case2 high l h rest hjoins ih =>
      obtain ⟨-, hrest⟩ := List.pairwise_cons.mp hset
      obtain ⟨hlow, hlater⟩ := List.forall_mem_cons.mp hfirst
      obtain ⟨hordered, hbegins, hcontains⟩ := ih hrest hlater
      refine ⟨hordered, hbegins, fun n => ?_⟩
      rw [hcontains, contains_cons, ← or_assoc]
      -- the ranges overlap or touch, so that there is nothing between them
      refine or_congr ?_ Iff.rfl
      change low ≤ l at hlow
      change low ≤ n ∧ n ≤ max high h ↔ low ≤ n ∧ n ≤ high ∨ l ≤ n ∧ n ≤ h
      omega
  | case3 high l h rest hapart =>
      refine ⟨List.pairwise_cons.mpr ⟨?_, hset⟩, ?_, fun n => contains_cons⟩
      · simpa using hfirst
      · exact List.forall_mem_cons.mpr ⟨Nat.le_refl low, hfirst⟩

theorem join_spec (h : ranges.IsOrdered) :
    (join ranges).IsOrdered ∧
      (∀ low, (∀ r ∈ ranges, low ≤ r.1) → ∀ r ∈ join ranges, low ≤ r.1) ∧
        ∀ n, (join ranges).contains n = true ↔ ranges.contains n = true := by
  induction ranges with
  | nil => exact ⟨h, fun low hlow => hlow, fun n => Iff.rfl⟩
  | cons r rest ih =>
      obtain ⟨hr, hrest⟩ := List.pairwise_cons.mp h
      obtain ⟨hordered, hbegins, hcontains⟩ := ih hrest
      have hfirst := hbegins r.1 fun s hs => of_decide_eq_true (hr s hs)
      obtain ⟨hordered', hbegins', hcontains'⟩ := @push_spec _ r.1 r.2 hordered hfirst
      refine ⟨hordered', ?_, fun n => ?_⟩
      · intro low hlow s hs
        obtain ⟨hlow, -⟩ := List.forall_mem_cons.mp hlow
        exact Nat.le_trans hlow (hbegins' s hs)
      · rw [contains_cons, ← hcontains n]
        exact hcontains' n

theorem union_spec (ha : a.IsOrdered) (hb : b.IsOrdered) :
    (union a b).IsOrdered ∧
      ∀ n, (union a b).contains n = true ↔ a.contains n = true ∨ b.contains n = true := by
  obtain ⟨hordered, -, hcontains⟩ := join_spec (isOrdered_merge ha hb)
  exact ⟨hordered, fun n => (hcontains n).trans contains_merge⟩

theorem contains_foldl_union {sets : List Ranges} (hset : set.IsOrdered)
    (hsets : ∀ s ∈ sets, s.IsOrdered) :
    (sets.foldl union set).contains n = true ↔
      set.contains n = true ∨ ∃ s ∈ sets, s.contains n = true := by
  induction sets generalizing set with
  | nil => simp
  | cons s rest ih =>
      obtain ⟨hs, hrest⟩ := List.forall_mem_cons.mp hsets
      obtain ⟨hordered, hcontains⟩ := union_spec hset hs
      rw [List.foldl_cons, ih hordered hrest, hcontains, or_assoc]
      simp only [List.mem_cons, exists_eq_or_imp]

end Unicode.Ranges

/-! ## Alternatives -/

namespace Pattern

variable {text : Array Char} {i j : ℕ} {alternatives : List Element} {set : Unicode.Ranges}

theorem exists_sets_of_classOfAlternatives? (h : classOfAlternatives? alternatives = some set) :
    ∃ sets : List Unicode.Ranges, alternatives.map (·.pattern) = sets.map .oneOf ∧
      sets.foldl Unicode.Ranges.union [] = set := by
  obtain ⟨sets, hsets, hset⟩ := Option.bind_eq_some_iff.mp h
  refine ⟨sets, ?_, ?_⟩
  · clear h hset
    induction alternatives generalizing sets with
    | nil =>
        cases hsets
        rfl
    | cons e rest ih =>
        rw [List.mapM_cons] at hsets
        obtain ⟨first, hfirst, hrest⟩ := Option.bind_eq_some_iff.mp hsets
        obtain ⟨others, hothers, hcons⟩ := Option.bind_eq_some_iff.mp hrest
        cases hcons
        rw [List.map_cons, List.map_cons, ih others hothers]
        split at hfirst
        · rename_i hpattern
          cases hfirst
          rw [hpattern]
        · cases hfirst
  · split at hset
    · exact Option.some.inj hset
    · cases hset

theorem matches_foldl_alt (p : Pattern) (rest : List Element) :
    (rest.foldl (fun p x => .alt x.pattern p) p).Matches text i j ↔
      p.Matches text i j ∨ ∃ e ∈ rest, e.pattern.Matches text i j := by
  induction rest generalizing p with
  | nil => simp
  | cons e rest ih =>
      rw [List.foldl_cons, ih, Matches, or_comm (a := e.pattern.Matches text i j), or_assoc]
      simp only [List.mem_cons, exists_eq_or_imp]

/-- A class of ordered sets matches what one of them does. -/
theorem matches_union_iff {sets : List Unicode.Ranges} (hordered : ∀ s ∈ sets, s.IsOrdered) :
    (Pattern.oneOf (sets.foldl Unicode.Ranges.union [])).Matches text i j ↔
      ∃ s ∈ sets, (Pattern.oneOf s).Matches text i j := by
  have hcontains (n : ℕ) := @Unicode.Ranges.contains_foldl_union [] n sets .nil hordered
  constructor
  · rintro ⟨c, hc, hset, rfl⟩
    obtain hnone | ⟨s, hs, hin⟩ := (hcontains c.toNat).mp hset
    · cases hnone
    · exact ⟨s, hs, c, hc, hin, rfl⟩
  · rintro ⟨s, hs, c, hc, hin, rfl⟩
    exact ⟨c, hc, (hcontains c.toNat).mpr (Or.inr ⟨s, hs, hin⟩), rfl⟩

theorem matches_classOfAlternatives? (h : classOfAlternatives? alternatives = some set)
    (hordered : ∀ e ∈ alternatives, ∀ set, e.pattern = .oneOf set → set.IsOrdered) :
    (Pattern.oneOf set).Matches text i j ↔ ∃ e ∈ alternatives, e.pattern.Matches text i j := by
  obtain ⟨sets, hpatterns, rfl⟩ := exists_sets_of_classOfAlternatives? h
  have hsets : ∀ s ∈ sets, s.IsOrdered := by
    intro s hs
    have hmem : Pattern.oneOf s ∈ alternatives.map (·.pattern) :=
      hpatterns ▸ List.mem_map_of_mem hs
    obtain ⟨e, he, hpattern⟩ := List.mem_map.mp hmem
    exact hordered e he s hpattern
  have hmatches : (∃ e ∈ alternatives, e.pattern.Matches text i j) ↔
      ∃ p ∈ alternatives.map (·.pattern), p.Matches text i j := by
    simp only [List.mem_map, exists_exists_and_eq_and]
  rw [hmatches, hpatterns, matches_union_iff hsets]
  simp only [List.mem_map, exists_exists_and_eq_and]

/-- What is read of alternatives matches what one of them matches. -/
theorem matches_joinAlternatives (hne : alternatives ≠ [])
    (hordered : ∀ e ∈ alternatives, ∀ set, e.pattern = .oneOf set → set.IsOrdered) :
    (joinAlternatives alternatives).pattern.Matches text i j ↔
      ∃ e ∈ alternatives, e.pattern.Matches text i j := by
  match alternatives with
  | [] => exact absurd rfl hne
  | [e] => simp [joinAlternatives]
  | e :: next :: rest =>
      rw [joinAlternatives]
      · cases hclass : classOfAlternatives? (e :: next :: rest) with
        | some set => exact matches_classOfAlternatives? hclass hordered
        | none => simp only [matches_foldl_alt, List.mem_cons, exists_eq_or_imp]
      · exact List.cons_ne_nil next rest

/-- As a class, eight characters are small enough to be repeated this often. -/
example : (ofText? "^(?:a|b|c|d|e|f|g|h)\x7b0,20000\x7d$").isSome = true := by
  decide +kernel

end Pattern
end ApiContract
