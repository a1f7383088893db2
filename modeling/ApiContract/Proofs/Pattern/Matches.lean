import ApiContract.Pattern.Basic
import Mathlib.Data.Nat.Basic

/-!
# What a pattern matches

`Pattern.Matches` says from where to where a pattern matches in a text, by what the pattern is
made of: one part after the other for a sequence, and a number of copies within the bounds for
a repetition.  The sets of positions that `Pattern.ends` computes are those to which a match
leads.  Of a repetition without a bound it tries no more copies than there are positions, since
copies that match no character can be left out.
-/

namespace ApiContract
namespace Positions

/-- So many steps of a relation lead from one position to another. -/
inductive Steps (relation : ℕ → ℕ → Prop) : (count start stop : ℕ) → Prop
  | none (i : ℕ) : Steps relation 0 i i
  | next {count i j k : ℕ} (hstep : relation i j) (hrest : Steps relation count j k) :
      Steps relation (count + 1) i k

namespace Steps

variable {relation : ℕ → ℕ → Prop} {count other i j k : ℕ}

theorem append (h : Steps relation count i j) (h' : Steps relation other j k) :
    Steps relation (count + other) i k := by
  induction h with
  | none i => rwa [Nat.zero_add]
  | next hstep hrest ih =>
      rw [Nat.add_right_comm]
      exact .next hstep (ih h')

theorem exists_append (h : Steps relation (count + other) i k) :
    ∃ j, Steps relation count i j ∧ Steps relation other j k := by
  induction count generalizing i with
  | zero =>
      rw [Nat.zero_add] at h
      exact ⟨i, .none i, h⟩
  | succ count ih =>
      rw [Nat.add_right_comm] at h
      obtain - | ⟨hstep, hrest⟩ := h
      obtain ⟨j, hfirst, hsecond⟩ := ih hrest
      exact ⟨j, .next hstep hfirst, hsecond⟩

/-- Steps that lead neither back nor across a limit do neither together. -/
theorem bounds {limit : ℕ} (hbounds : ∀ i j, relation i j → i ≤ j ∧ j ≤ max i limit)
    (h : Steps relation count i j) : i ≤ j ∧ j ≤ max i limit := by
  induction h with
  | none i => omega
  | next hstep hrest ih =>
      have hfirst := hbounds _ _ hstep
      omega

/-- Where no step leads back, those that lead nowhere can be left out; the others are no more
than the positions that they cross. -/
theorem exists_short (hforward : ∀ i j, relation i j → i ≤ j) (h : Steps relation count i j) :
    i ≤ j ∧ ∃ short, short ≤ count ∧ short ≤ j - i ∧ Steps relation short i j := by
  induction h with
  | none i => exact ⟨le_rfl, 0, Nat.le_refl 0, Nat.zero_le _, .none i⟩
  | @next count i j k hstep hrest ih =>
      obtain ⟨hlater, short, hcount, hlength, hshort⟩ := ih
      have hfirst := hforward i j hstep
      refine ⟨Nat.le_trans hfirst hlater, ?_⟩
      by_cases hstays : i = j
      · subst hstays
        exact ⟨short, by omega, hlength, hshort⟩
      · exact ⟨short + 1, by omega, by omega, .next hstep hshort⟩

theorem mem_of_closed {positions : Positions}
    (hclosed : ∀ i ∈ positions, ∀ j, relation i j → j ∈ positions)
    (hi : i ∈ positions) (h : Steps relation count i j) : j ∈ positions := by
  induction h with
  | none => exact hi
  | next hstep hrest ih => exact ih (hclosed _ hi _ hstep)

end Steps

/-! ## Sets of positions -/

variable {a b seen latest starts : Positions} {x : ℕ}

theorem mem_union : x ∈ union a b ↔ x ∈ a ∨ x ∈ b := by
  fun_induction union a b <;> grind

theorem mem_of_mem_diff (h : x ∈ diff a b) : x ∈ a := by
  fun_induction diff a b <;> grind

theorem mem_or_mem_diff (h : x ∈ a) : x ∈ b ∨ x ∈ diff a b := by
  fun_induction diff a b <;> grind

/-- A step of sets goes along a relation of positions. -/
def Follows (step : Positions → Positions) (relation : ℕ → ℕ → Prop) : Prop :=
  ∀ starts j, j ∈ step starts ↔ ∃ i ∈ starts, relation i j

/-- The steps from positions that have been seen have been taken, but for those from the latest
ones. -/
def Explored (relation : ℕ → ℕ → Prop) (seen latest : Positions) : Prop :=
  ∀ i ∈ seen, ∀ j, relation i j → j ∈ seen ∨ i ∈ latest

namespace Follows

variable {step : Positions → Positions} {relation : ℕ → ℕ → Prop} {j : ℕ}

theorem iterate_of_fixed (hfixed : step starts = starts) (count : ℕ) :
    iterate step starts count = starts := by
  cases count with
  | zero => rfl
  | succ count => rw [iterate, if_pos hfixed]

theorem mem_iterate (h : Follows step relation) (starts : Positions) (count : ℕ) :
    j ∈ iterate step starts count ↔ ∃ i ∈ starts, Steps relation count i j := by
  induction count generalizing starts with
  | zero =>
      constructor
      · exact fun hj => ⟨j, hj, .none j⟩
      · rintro ⟨i, hi, hsteps⟩
        cases hsteps with
        | none => exact hi
  | succ count ih =>
      have hgoesOn : iterate step starts (count + 1) = iterate step (step starts) count := by
        by_cases hfixed : step starts = starts
        · rw [iterate_of_fixed hfixed, hfixed, iterate_of_fixed hfixed]
        · exact if_neg hfixed
      rw [hgoesOn, ih (step starts)]
      constructor
      · rintro ⟨k, hk, hrest⟩
        obtain ⟨i, hi, hstep⟩ := (h starts k).mp hk
        exact ⟨i, hi, .next hstep hrest⟩
      · rintro ⟨i, hi, - | ⟨hstep, hrest⟩⟩
        exact ⟨_, (h starts _).mpr ⟨i, hi, hstep⟩, hrest⟩

/-- Where a step leads from positions that have been seen has been seen or is new. -/
theorem mem_or_mem_fresh (h : Follows step relation) (hexplored : Explored relation seen latest)
    {i : ℕ} (hi : i ∈ seen) (hstep : relation i j) :
    j ∈ seen ∨ j ∈ (step latest).diff seen := by
  obtain hseen | hlatest := hexplored i hi j hstep
  · exact Or.inl hseen
  · exact mem_or_mem_diff ((h latest j).mpr ⟨i, hlatest, hstep⟩)

theorem explored_union (h : Follows step relation)
    (hexplored : Explored relation seen latest) :
    Explored relation (seen.union ((step latest).diff seen)) ((step latest).diff seen) := by
  intro i hi j hstep
  obtain hseen | hfresh := mem_union.mp hi
  · exact Or.inl (mem_union.mpr (h.mem_or_mem_fresh hexplored hseen hstep))
  · exact Or.inr hfresh

/-- So many rounds reach what at most so many steps lead to from the positions that have been
seen. -/
theorem mem_reach (h : Follows step relation) (hlatest : latest ⊆ seen)
    (hexplored : Explored relation seen latest) (rounds : ℕ) :
    j ∈ reach step seen latest rounds ↔
      ∃ i ∈ seen, ∃ count ≤ rounds, Steps relation count i j := by
  induction rounds generalizing seen latest with
  | zero =>
      constructor
      · exact fun hj => ⟨j, hj, 0, Nat.le_refl 0, .none j⟩
      · rintro ⟨i, hi, count, hcount, hsteps⟩
        obtain rfl := Nat.le_zero.mp hcount
        cases hsteps with
        | none => exact hi
  | succ rounds ih =>
      have hnew {i k : ℕ} (hi : i ∈ seen) (hstep : relation i k) :=
        h.mem_or_mem_fresh hexplored hi hstep
      rw [reach]
      split
      · rename_i hempty
        -- Nothing is new, so steps lead to what has been seen.
        have hclosed : ∀ i ∈ seen, ∀ k, relation i k → k ∈ seen := by
          intro i hi k hstep
          exact (hnew hi hstep).resolve_right (by simp [List.isEmpty_iff.mp hempty])
        constructor
        · exact fun hj => ⟨j, hj, 0, Nat.zero_le _, .none j⟩
        · rintro ⟨i, hi, count, -, hsteps⟩
          exact hsteps.mem_of_closed hclosed hi
      · rw [ih (fun k hk => mem_union.mpr (Or.inr hk)) (h.explored_union hexplored)]
        constructor
        · rintro ⟨i, hi, count, hcount, hsteps⟩
          obtain hseen | hfresh := mem_union.mp hi
          · exact ⟨i, hseen, count, by omega, hsteps⟩
          · obtain ⟨k, hk, hstep⟩ := (h latest i).mp (mem_of_mem_diff hfresh)
            exact ⟨k, hlatest hk, count + 1, by omega, .next hstep hsteps⟩
        · rintro ⟨i, hi, count, hcount, hsteps⟩
          cases hsteps with
          | none => exact ⟨j, mem_union.mpr (Or.inl hi), 0, Nat.zero_le _, .none j⟩
          | next hstep hrest =>
              exact ⟨_, mem_union.mpr (hnew hi hstep), _, Nat.le_of_succ_le_succ hcount, hrest⟩

end Follows
end Positions

/-! ## Matches -/

namespace Pattern

open Positions

/-- The pattern matches what stands in the text from one position to another. -/
def Matches (text : Array Char) : Pattern → (start stop : ℕ) → Prop
  | .empty, i, j => i = j
  | .oneOf set, i, j => ∃ c, text[i]? = some c ∧ set.contains c.toNat = true ∧ i + 1 = j
  | .anchor a, i, j =>
      a.holds (if i = 0 then none else text[i - 1]?) text[i]? = true ∧ i = j
  | .seq first second, i, j => ∃ k, first.Matches text i k ∧ second.Matches text k j
  | .alt first second, i, j => first.Matches text i j ∨ second.Matches text i j
  | .repeated body least most, i, j =>
      ∃ count, least ≤ count ∧ (∀ limit, most = some limit → count ≤ max least limit) ∧
        Steps (body.Matches text) count i j
  | .group body, i, j => body.Matches text i j

variable {text : Array Char} {p : Pattern} {i j : ℕ}

/-- A match leads neither back nor beyond the end of the text. -/
theorem Matches.bounds (h : p.Matches text i j) : i ≤ j ∧ j ≤ max i text.size := by
  induction p generalizing i j with
  | empty => cases h; omega
  | oneOf set =>
      obtain ⟨c, hc, -, rfl⟩ := h
      obtain ⟨hi, -⟩ := Array.getElem?_eq_some_iff.mp hc
      omega
  | anchor a =>
      obtain ⟨-, rfl⟩ := h
      omega
  | seq first second ihfirst ihsecond =>
      obtain ⟨k, hfirst, hsecond⟩ := h
      have := ihfirst hfirst
      have := ihsecond hsecond
      omega
  | alt first second ihfirst ihsecond => exact h.elim ihfirst ihsecond
  | repeated body least most ih =>
      obtain ⟨count, -, -, hsteps⟩ := h
      exact hsteps.bounds fun i j => ih
  | group body ih => exact ih h

/-- How many copies are tried after those that are required. -/
def triedCopies (text : Array Char) (least : ℕ) : (most : Option ℕ) → ℕ
  | some limit => min (limit - least) (text.size + 1)
  | none => text.size + 1

/-- No more copies need be tried than there are positions. -/
theorem matches_repeated_iff {least : ℕ} {most : Option ℕ} :
    (Pattern.repeated p least most).Matches text i j ↔
      ∃ k, Steps (p.Matches text) least i k ∧
        ∃ count ≤ triedCopies text least most, Steps (p.Matches text) count k j := by
  constructor
  · rintro ⟨count, hleast, hmost, hsteps⟩
    obtain ⟨more, rfl⟩ := Nat.exists_eq_add_of_le hleast
    obtain ⟨k, hrequired, hmore⟩ := hsteps.exists_append
    have hend := (hmore.bounds fun i j h => h.bounds).2
    obtain ⟨-, short, hshorter, hlength, hshort⟩ := hmore.exists_short fun i j h => h.bounds.1
    refine ⟨k, hrequired, short, ?_, hshort⟩
    cases most with
    | none =>
        change short ≤ text.size + 1
        omega
    | some limit =>
        have hlimit := hmost limit rfl
        change short ≤ min (limit - least) (text.size + 1)
        omega
  · rintro ⟨k, hrequired, count, htried, hmore⟩
    refine ⟨least + count, Nat.le_add_right _ _, ?_, hrequired.append hmore⟩
    rintro limit rfl
    change count ≤ min (limit - least) (text.size + 1) at htried
    omega

/-- The positions that are computed are those to which a match leads. -/
theorem mem_ends_iff (p : Pattern) (text : Array Char) (starts : Positions) (j : ℕ) :
    j ∈ p.ends text starts ↔ ∃ i ∈ starts, p.Matches text i j := by
  induction p generalizing starts j with
  | empty => simp [ends, Matches]
  | oneOf set =>
      rw [ends, List.mem_filterMap]
      refine exists_congr fun i => and_congr_right fun _ => ?_
      cases htext : text[i]? with
      | none => simp [Matches, htext]
      | some c => simp [Matches, htext]
  | anchor a =>
      rw [ends, List.mem_filter]
      constructor
      · rintro ⟨hj, hholds⟩
        exact ⟨j, hj, hholds, rfl⟩
      · rintro ⟨i, hi, hholds, rfl⟩
        exact ⟨hi, hholds⟩
  | seq first second ihfirst ihsecond =>
      rw [ends, ihsecond]
      constructor
      · rintro ⟨k, hk, hsecond⟩
        obtain ⟨i, hi, hfirst⟩ := (ihfirst starts k).mp hk
        exact ⟨i, hi, k, hfirst, hsecond⟩
      · rintro ⟨i, hi, k, hfirst, hsecond⟩
        exact ⟨k, (ihfirst starts k).mpr ⟨i, hi, hfirst⟩, hsecond⟩
  | alt first second ihfirst ihsecond =>
      rw [ends, mem_union, ihfirst, ihsecond, ← exists_or]
      exact exists_congr fun i => and_or_left.symm
  | repeated body least most ih =>
      have hfollows : Follows (body.ends text) (body.Matches text) := ih
      have hexplored {begun : Positions} : Explored (body.Matches text) begun begun :=
        fun i hi _ _ => Or.inr hi
      have hends : (Pattern.repeated body least most).ends text starts =
          reach (body.ends text) (iterate (body.ends text) starts least)
            (iterate (body.ends text) starts least) (triedCopies text least most) := by
        cases most <;> rfl
      rw [hends, hfollows.mem_reach (List.Subset.refl _) hexplored]
      simp only [matches_repeated_iff, hfollows.mem_iterate]
      constructor
      · rintro ⟨k, ⟨i, hi, hrequired⟩, hmore⟩
        exact ⟨i, hi, k, hrequired, hmore⟩
      · rintro ⟨i, hi, k, hrequired, hmore⟩
        exact ⟨k, ⟨i, hi, hrequired⟩, hmore⟩
  | group body ih => exact ih starts j

/-- A pattern matches some part of a text exactly if a match leads from one of its positions
to another. -/
theorem isMatch_iff (p : Pattern) (text : String) :
    p.isMatch text = true ↔
      ∃ i j, i ≤ text.toList.length ∧ p.Matches text.toList.toArray i j := by
  rw [isMatch, Bool.not_eq_true', List.isEmpty_eq_false_iff_exists_mem]
  simp only [mem_ends_iff, List.mem_range, List.size_toArray, Nat.lt_succ_iff]
  rw [exists_comm]

end Pattern
end ApiContract
