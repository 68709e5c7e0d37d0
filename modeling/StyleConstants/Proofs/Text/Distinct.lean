import Mathlib.Data.List.Basic

/-!
# Names listed once

Dropping repetitions from a list keeps the names in the order in which they came first.

* `pairwise_eraseDups`: the order, from which follows that each name is there once.
* `eraseDups_of_nodup`: a list without repetitions stays as it is.
-/

namespace StyleConstants

variable {names : List String}

/-- Names that are left in a list come in the order that they had. -/
theorem idxOf_lt_of_filter {p : String → Bool} {a b : String} (ha : p a = true) (hb : p b = true)
    (h : (names.filter p).idxOf a < (names.filter p).idxOf b) : names.idxOf a < names.idxOf b := by
  induction names with
  | nil => exact absurd h (Nat.lt_irrefl _)
  | cons c names ih =>
    by_cases hc : p c = true
    · rw [List.filter_cons_of_pos hc] at h
      by_cases hcb : c = b
      · rw [hcb, List.idxOf_cons_self] at h
        exact absurd h (Nat.not_lt_zero _)
      · rw [List.idxOf_cons_ne _ hcb] at h ⊢
        by_cases hca : c = a
        · rw [hca, List.idxOf_cons_self]
          exact Nat.succ_pos _
        · rw [List.idxOf_cons_ne _ hca] at h ⊢
          exact Nat.succ_lt_succ (ih (Nat.lt_of_succ_lt_succ h))
    · rw [List.filter_cons_of_neg hc] at h
      have hca : c ≠ a := fun heq => hc (heq ▸ ha)
      have hcb : c ≠ b := fun heq => hc (heq ▸ hb)
      rw [List.idxOf_cons_ne _ hca, List.idxOf_cons_ne _ hcb]
      exact Nat.succ_lt_succ (ih h)

/-- Without repetitions, names come in the order in which they came first. -/
theorem pairwise_eraseDups (names : List String) :
    names.eraseDups.Pairwise fun a b => names.idxOf a < names.idxOf b := by
  cases names with
  | nil => exact .nil
  | cons name names =>
    rw [List.eraseDups_cons, List.pairwise_cons]
    have hother : ∀ other ∈ (names.filter fun other => !other == name).eraseDups,
        (!other == name) = true := fun other h => (List.mem_filter.1 (List.mem_eraseDups.1 h)).2
    constructor
    · intro other h
      have hne : name ≠ other := by
        rintro rfl
        simpa using hother name h
      rw [List.idxOf_cons_self, List.idxOf_cons_ne _ hne]
      exact Nat.succ_pos _
    · refine (pairwise_eraseDups _).imp_of_mem fun ha hb hlt => ?_
      refine idxOf_lt_of_filter (p := fun other => !other == name) (hother _ ha) (hother _ hb) ?_
      rwa [List.filter_cons_of_neg (by simp)]
termination_by names.length
decreasing_by exact Nat.lt_succ_of_le (List.length_filter_le _ _)

theorem nodup_eraseDups (names : List String) : names.eraseDups.Nodup := by
  refine (pairwise_eraseDups names).imp ?_
  rintro name _ hlt rfl
  exact Nat.lt_irrefl _ hlt

theorem eraseDups_of_nodup (h : names.Nodup) : names.eraseDups = names := by
  induction names with
  | nil => rfl
  | cons name names ih =>
    obtain ⟨hname, hnames⟩ := List.nodup_cons.1 h
    have hother : names.filter (fun other => !other == name) = names := by
      rw [List.filter_eq_self]
      intro other hmem
      have hne : other ≠ name := by
        rintro rfl
        exact hname hmem
      simp [hne]
    rw [List.eraseDups_cons, hother, ih hnames]

end StyleConstants
