import Mathlib.Data.List.Forall2

/-!
# Outcomes

What an outcome that was changed, or one that was collected from a list, says about the outcomes it
comes from.

* `exists_of_map_eq_ok`, `exists_of_map_eq_error`: a changed outcome succeeds or fails as before.
* `mapM_eq_ok_iff`: a collected outcome succeeds part by part.
-/

namespace StyleConstants

variable {ε α β : Type}

theorem exists_of_map_eq_ok {f : α → β} {result : Except ε α} {b : β}
    (h : result.map f = .ok b) : ∃ a, result = .ok a ∧ f a = b := by
  cases result with
  | error fault => cases h
  | ok a => exact ⟨a, rfl, Except.ok.inj h⟩

theorem exists_of_map_eq_error {f : α → β} {result : Except ε α} {fault : ε}
    (h : result.map f = .error fault) : result = .error fault := by
  cases result with
  | error other => exact congrArg _ (Except.error.inj h)
  | ok a => cases h

theorem map_append_nil (result : Except ε (List α)) : result.map ([] ++ ·) = result := by
  cases result <;> rfl

theorem mapM_eq_ok_iff {read : β → Except ε α} {list : List β} {results : List α} :
    list.mapM read = .ok results ↔ List.Forall₂ (fun b a => read b = .ok a) list results := by
  induction list generalizing results with
  | nil =>
    rw [List.mapM_nil, List.forall₂_nil_left_iff]
    exact ⟨fun h => (Except.ok.inj h).symm, fun h => by rw [h]; rfl⟩
  | cons b rest ih =>
    rw [List.mapM_cons, List.forall₂_cons_left_iff]
    constructor
    · intro h
      cases hfirst : read b with
      | error fault =>
        rw [hfirst] at h
        cases h
      | ok a =>
        cases hrest : rest.mapM read with
        | error fault =>
          rw [hfirst, hrest] at h
          cases h
        | ok others =>
          rw [hfirst, hrest] at h
          cases h
          exact ⟨a, others, rfl, ih.1 hrest, rfl⟩
    · rintro ⟨a, others, hfirst, hrest, rfl⟩
      rw [hfirst, ih.2 hrest]
      rfl

theorem mapM_map_eq_ok {write : α → β} {read : β → Except ε α}
    (h : ∀ a, read (write a) = .ok a) (list : List α) : (list.map write).mapM read = .ok list := by
  rw [mapM_eq_ok_iff, List.forall₂_map_left_iff]
  exact List.forall₂_same.2 fun a _ => h a

end StyleConstants
