import Mathlib.Data.List.Forall2

/-!
# One after the other

Going through a list with a function that may fail ends at the first item for which it
fails.  What is said here of `mapM` carries over to `forM`, which forgets the results, and
to `foldlM`, which collects them on the way.
-/

namespace ApiContract

variable {α β γ ε : Type} {check : α → Except ε β} {item : α} {items : List α} {failure : ε}

/-! ## The first item and the others -/

theorem mapM_cons_of_ok {result : β} (h : check item = .ok result) :
    (item :: items).mapM check = (items.mapM check).map (result :: ·) := by
  rw [List.mapM_cons, h]
  cases items.mapM check <;> rfl

theorem mapM_cons_of_error (h : check item = .error failure) :
    (item :: items).mapM check = .error failure := by
  rw [List.mapM_cons, h]
  rfl

theorem map_eq_error_iff {α β : Type} {answer : Except ε α} {f : α → β} :
    answer.map f = .error failure ↔ answer = .error failure := by
  cases answer <;> simp [Except.map]

theorem map_eq_ok_iff {α β : Type} {answer : Except ε α} {f : α → β} {result : β} :
    answer.map f = .ok result ↔ ∃ found, answer = .ok found ∧ f found = result := by
  cases answer <;> simp [Except.map]

/-! ## The whole list -/

/-- Nothing fails if every item has a result. -/
theorem mapM_eq_ok_iff {results : List β} :
    items.mapM check = .ok results ↔
      List.Forall₂ (fun item result => check item = .ok result) items results := by
  induction items generalizing results with
  | nil => simp [pure, Except.pure, eq_comm]
  | cons item items ih =>
      rw [List.forall₂_cons_left_iff]
      cases hitem : check item with
      | error failure => simp [mapM_cons_of_error hitem]
      | ok result =>
          simp only [mapM_cons_of_ok hitem, map_eq_ok_iff, ih]
          constructor
          · rintro ⟨rest, hrest, rfl⟩
            exact ⟨result, rest, rfl, hrest, rfl⟩
          · rintro ⟨other, rest, hother, hrest, rfl⟩
            exact ⟨rest, hrest, by rw [Except.ok.inj hother]⟩

/-- What fails is the first item that has no result. -/
theorem mapM_eq_error_iff :
    items.mapM check = .error failure ↔
      ∃ before item after, items = before ++ item :: after ∧
        (∀ earlier ∈ before, ∃ result, check earlier = .ok result) ∧
          check item = .error failure := by
  induction items with
  | nil => simp [pure, Except.pure]
  | cons first items ih =>
      simp only [List.cons_eq_append_iff]
      cases hfirst : check first with
      | error other =>
          rw [mapM_cons_of_error hfirst, Except.error.injEq]
          constructor
          · rintro rfl
            exact ⟨[], first, items, Or.inl ⟨rfl, rfl⟩, by simp, hfirst⟩
          · rintro ⟨before, item, after, ⟨-, hsame⟩ | ⟨rest, rfl, -⟩, hbefore, hitem⟩
            · obtain ⟨rfl, -⟩ := List.cons.inj hsame
              exact Except.error.inj (hfirst.symm.trans hitem)
            · obtain ⟨result, hresult⟩ := hbefore first List.mem_cons_self
              cases hfirst.symm.trans hresult
      | ok result =>
          rw [mapM_cons_of_ok hfirst, map_eq_error_iff, ih]
          constructor
          · rintro ⟨before, item, after, rfl, hbefore, hitem⟩
            refine ⟨first :: before, item, after, Or.inr ⟨before, rfl, rfl⟩, ?_, hitem⟩
            exact List.forall_mem_cons.mpr ⟨⟨result, hfirst⟩, hbefore⟩
          · rintro ⟨before, item, after, ⟨-, hsame⟩ | ⟨rest, rfl, rfl⟩, hbefore, hitem⟩
            · obtain ⟨rfl, -⟩ := List.cons.inj hsame
              cases hfirst.symm.trans hitem
            · exact ⟨rest, item, after, rfl, (List.forall_mem_cons.mp hbefore).2, hitem⟩

/-- Something fails if some item has no result. -/
theorem exists_mapM_eq_error_iff :
    (∃ failure, items.mapM check = .error failure) ↔
      ∃ item ∈ items, ∃ failure, check item = .error failure := by
  induction items with
  | nil => simp [pure, Except.pure]
  | cons item items ih =>
      rw [List.exists_mem_cons_iff, ← ih]
      cases hitem : check item with
      | error failure => simp [mapM_cons_of_error hitem]
      | ok result => simp [mapM_cons_of_ok hitem, map_eq_error_iff]

/-- Collecting results on the way is collecting them at the end. -/
theorem foldlM_eq_map_mapM (collect : γ → β → γ) (start : γ) :
    items.foldlM (fun state item => do return collect state (← check item)) start =
      (items.mapM check).map (·.foldl collect start) := by
  induction items generalizing start with
  | nil => rfl
  | cons item items ih =>
      rw [List.foldlM_cons]
      cases hitem : check item with
      | error failure =>
          rw [mapM_cons_of_error hitem]
          rfl
      | ok result =>
          rw [mapM_cons_of_ok hitem]
          refine (ih (collect start result)).trans ?_
          cases items.mapM check <;> rfl

theorem forM_eq_map_mapM {check : α → Except ε Unit} :
    items.forM check = (items.mapM check).map fun _ => () := by
  have hforM (item : α) (items : List α) :
      (item :: items).forM check = check item >>= fun _ => items.forM check := rfl
  induction items with
  | nil => rfl
  | cons item items ih =>
      rw [hforM, ih]
      cases hitem : check item with
      | error failure =>
          rw [mapM_cons_of_error hitem]
          rfl
      | ok result =>
          rw [mapM_cons_of_ok hitem]
          cases items.mapM check <;> rfl

theorem forM_eq_error_iff {check : α → Except ε Unit} :
    items.forM check = .error failure ↔
      ∃ before item after, items = before ++ item :: after ∧
        (∀ earlier ∈ before, check earlier = .ok ()) ∧ check item = .error failure := by
  simp only [forM_eq_map_mapM, map_eq_error_iff, mapM_eq_error_iff, Unique.exists_iff,
    PUnit.default_eq_unit]

theorem forM_eq_ok_iff {check : α → Except ε Unit} :
    items.forM check = .ok () ↔ ∀ item ∈ items, check item = .ok () := by
  have hok (answer : Except ε Unit) : answer = .ok () ↔ ¬∃ failure, answer = .error failure := by
    cases answer <;> simp
  simp only [hok, forM_eq_map_mapM, map_eq_error_iff, exists_mapM_eq_error_iff, not_exists,
    not_and]

end ApiContract
