import Mathlib.Data.PFun

/-!
# Loops that move a cursor

A loop takes turn after turn. A turn ends the loop with a result, the left case, or leads to the
state from which the next turn is taken, the right case. It may also lead nowhere, because it reads
where nothing is or because a loop inside it does not end. The loop is `PFun.fix` of its turn, of
which nothing is assumed: a loop that does not end has no result.

* `Progresses`: every turn that is taken moves the cursor on, but not beyond its limit, and the loop
  ends.
* `exists_progresses`: so it is if a turn keeps an invariant and moves the cursor on.
-/

namespace StyleConstants.Loop

variable {σ ρ : Type} {turn : σ →. ρ ⊕ σ}

/-- The states from which the loop that starts from `start` takes its turns. -/
inductive Passes (turn : σ →. ρ ⊕ σ) (start : σ) : σ → Prop
  | start : Passes turn start start
  | again {state next : σ} (h : Passes turn start state) (hturn : turn state = .some (.inr next)) :
      Passes turn start next

/-- Every turn of the loop that starts from `start` leads somewhere and moves the cursor on, up to
the limit at most, and the loop ends with the result. -/
structure Progresses (turn : σ →. ρ ⊕ σ) (cursor : σ → Nat) (limit : Nat) (start : σ) (result : ρ) :
    Prop where
  within : ∀ state, Passes turn start state → cursor state ≤ limit
  leads : ∀ state, Passes turn start state → ∃ outcome, turn state = .some outcome
  advances : ∀ state next, Passes turn start state → turn state = .some (.inr next) →
    cursor state < cursor next
  ends : turn.fix start = .some result

/-- A turn from `state` does what it should: it ends the loop with a result that is right there, or
it moves the cursor on to a state where the invariant holds and what is right is right here too. -/
inductive IsSound (holds : σ → Prop) (cursor : σ → Nat) (right : σ → ρ → Prop) (state : σ) :
    Part (ρ ⊕ σ) → Prop
  | stop {result : ρ} (hright : right state result) :
      IsSound holds cursor right state (.some (.inl result))
  | again {next : σ} (hholds : holds next) (hcursor : cursor state < cursor next)
      (hright : ∀ result, right next result → right state result) :
      IsSound holds cursor right state (.some (.inr next))

theorem fix_of_stop {state : σ} {result : ρ} (h : turn state = .some (.inl result)) :
    turn.fix state = .some result :=
  Part.eq_some_iff.2 (PFun.fix_stop (Part.eq_some_iff.1 h))

theorem fix_of_again {state next : σ} (h : turn state = .some (.inr next)) :
    turn.fix state = turn.fix next :=
  PFun.fix_fwd_eq (Part.eq_some_iff.1 h)

section Invariant

variable {holds : σ → Prop} {cursor : σ → Nat} {right : σ → ρ → Prop}

/-- A turn that is sound has one of its two outcomes. -/
theorem IsSound.cases {state : σ} (h : IsSound holds cursor right state (turn state)) :
    (∃ result, turn state = .some (.inl result) ∧ right state result) ∨
    ∃ next, turn state = .some (.inr next) ∧ holds next ∧ cursor state < cursor next ∧
      ∀ result, right next result → right state result := by
  obtain ⟨outcome, houtcome⟩ : ∃ outcome, turn state = outcome := ⟨_, rfl⟩
  rw [houtcome] at h ⊢
  cases h with
  | stop hright => exact .inl ⟨_, rfl, hright⟩
  | again hholds hcursor hright => exact .inr ⟨_, rfl, hholds, hcursor, hright⟩

variable (hturn : ∀ state, holds state → IsSound holds cursor right state (turn state))

include hturn

theorem advances_of_sound {state next : σ} (hstate : holds state)
    (hnext : turn state = .some (.inr next)) : holds next ∧ cursor state < cursor next := by
  rcases (hturn state hstate).cases with ⟨result, hstop, -⟩ | ⟨other, hother, hholds, hcursor, -⟩
  · cases Part.some_injective (hstop.symm.trans hnext)
  · cases Part.some_injective (hother.symm.trans hnext)
    exact ⟨hholds, hcursor⟩

theorem Passes.invariant {start state : σ} (hstart : holds start) (h : Passes turn start state) :
    holds state := by
  induction h with
  | start => exact hstart
  | again _ hnext ih => exact (advances_of_sound hturn ih hnext).1

variable {limit : Nat} (hlimit : ∀ state, holds state → cursor state ≤ limit)

include hlimit

/-- The turns that are left are bounded by the room in front of the cursor. -/
theorem exists_fix_eq {start : σ} (hstart : holds start) :
    ∃ result, right start result ∧ turn.fix start = .some result := by
  induction hroom : limit - cursor start using Nat.strongRecOn generalizing start with
  | ind room ih =>
    rcases (hturn start hstart).cases with
      ⟨result, hstop, hright⟩ | ⟨next, hagain, hnext, hcursor, hright⟩
    · exact ⟨result, hright, fix_of_stop hstop⟩
    · have hle := hlimit next hnext
      obtain ⟨result, hresult, hfix⟩ := ih (limit - cursor next) (by omega) hnext rfl
      exact ⟨result, hright result hresult, (fix_of_again hagain).trans hfix⟩

theorem exists_progresses {start : σ} (hstart : holds start) :
    ∃ result, right start result ∧ Progresses turn cursor limit start result := by
  obtain ⟨result, hright, hends⟩ := exists_fix_eq hturn hlimit hstart
  refine ⟨result, hright, ?_, ?_, ?_, hends⟩
  · exact fun state h => hlimit state (h.invariant hturn hstart)
  · intro state h
    rcases (hturn state (h.invariant hturn hstart)).cases with ⟨_, hstop, -⟩ | ⟨_, hagain, -⟩
    · exact ⟨_, hstop⟩
    · exact ⟨_, hagain⟩
  · exact fun state next h hnext => (advances_of_sound hturn (h.invariant hturn hstart) hnext).2

end Invariant

section Value

variable {holds : σ → Prop} {cursor : σ → Nat} {value : σ → ρ}

theorem IsSound.again_of_value {state next : σ} (hholds : holds next)
    (hcursor : cursor state < cursor next) (hvalue : value next = value state) :
    IsSound holds cursor (fun state result => result = value state) state (.some (.inr next)) :=
  .again hholds hcursor fun _ h => h.trans hvalue

/-- A loop whose turns leave a value as it is ends with that value. -/
theorem progresses_of_value
    (hturn : ∀ state, holds state →
      IsSound holds cursor (fun state result => result = value state) state (turn state))
    {limit : Nat} (hlimit : ∀ state, holds state → cursor state ≤ limit) {start : σ}
    (hstart : holds start) : Progresses turn cursor limit start (value start) := by
  obtain ⟨result, rfl, h⟩ := exists_progresses hturn hlimit hstart
  exact h

end Value

end StyleConstants.Loop
