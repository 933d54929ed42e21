import Mathlib.Data.List.Forall2

/-!
# Actions on all items of a list

An action that may fail, done on one item after the other, yields a list exactly when it yields each
of its values on the item in the same place. When it fails, it fails as it does on one of the items.
-/

namespace Crosscheck

variable {ε α β : Type} {f : α → Except ε β} {items : List α}

/-- An action on all items yields the values that it yields on each of them. -/
theorem mapM_eq_ok_iff {values : List β} :
    items.mapM f = .ok values ↔ values.map .ok = items.map f := by
  induction items generalizing values with
  | nil => simp [pure, Except.pure, eq_comm]
  | cons a items ih =>
    rw [List.mapM_cons, List.map_cons]
    cases hfirst : f a with
    | error error => cases values <;> simp [bind, Except.bind]
    | ok value =>
      cases values with
      | nil => cases items.mapM f <;> simp [bind, Except.bind, pure, Except.pure]
      | cons other values =>
        rw [List.map_cons, List.cons_eq_cons, ← ih]
        cases items.mapM f <;> simp [bind, Except.bind, pure, Except.pure, eq_comm]

/-- An action on all items fails as it does on one of them. -/
theorem exists_mem_of_mapM_eq_error {error : ε} (h : items.mapM f = .error error) :
    ∃ a ∈ items, f a = .error error := by
  induction items with
  | nil => cases h
  | cons a items ih =>
    rw [List.mapM_cons] at h
    cases hfirst : f a with
    | error other =>
      rw [hfirst] at h
      cases h
      exact ⟨a, by simp, hfirst⟩
    | ok value =>
      cases hrest : items.mapM f with
      | error other =>
        rw [hfirst, hrest] at h
        cases h
        obtain ⟨b, hb, herror⟩ := ih hrest
        exact ⟨b, by simp [hb], herror⟩
      | ok values =>
        rw [hfirst, hrest] at h
        cases h

/-- An action on all items yields values if it yields one on each of them. -/
theorem exists_mapM_eq_ok_iff :
    (∃ values, items.mapM f = .ok values) ↔ ∀ a ∈ items, ∃ value, f a = .ok value := by
  constructor
  · rintro ⟨values, h⟩ a ha
    have hmem : f a ∈ values.map .ok := mapM_eq_ok_iff.mp h ▸ List.mem_map.mpr ⟨a, ha, rfl⟩
    obtain ⟨value, -, hvalue⟩ := List.mem_map.mp hmem
    exact ⟨value, hvalue.symm⟩
  · intro h
    cases hall : items.mapM f with
    | ok values => exact ⟨values, rfl⟩
    | error error =>
      obtain ⟨a, ha, herror⟩ := exists_mem_of_mapM_eq_error hall
      obtain ⟨value, hvalue⟩ := h a ha
      rw [herror] at hvalue
      cases hvalue

/-- An action on all items yields in each place what it yields on the item there. -/
theorem mapM_eq_ok_iff_forall₂ {values : List β} :
    items.mapM f = .ok values ↔ List.Forall₂ (fun a value => f a = .ok value) items values := by
  rw [mapM_eq_ok_iff, eq_comm, ← List.forall₂_eq_eq_eq, List.forall₂_map_left_iff,
    List.forall₂_map_right_iff]

end Crosscheck
