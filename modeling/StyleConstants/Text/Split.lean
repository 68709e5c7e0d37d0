/-!
# Lists cut at a separator

A text is cut at a character, and the bytes of a path at a byte.

* `join_split`: joining the pieces gives the text back.
* `split_join`: pieces that do not hold the separator are found again.
* `split_append_cons`: a separator between two lists cuts there.
-/

namespace StyleConstants.Text

variable {α : Type}

/-- The pieces between the separators of a list; there is one piece more than separators. -/
def split [DecidableEq α] (separator : α) : List α → List (List α)
  | [] => [[]]
  | c :: rest =>
    if c = separator then [] :: split separator rest
    else
      match split separator rest with
      | [] => [[c]]
      | piece :: others => (c :: piece) :: others

/-- The pieces with a separator between any two. -/
def join (separator : α) : List (List α) → List α
  | [] => []
  | [piece] => piece
  | piece :: next :: others => piece ++ separator :: join separator (next :: others)

theorem join_cons_of_ne_nil (separator : α) (piece : List α) {others : List (List α)}
    (h : others ≠ []) :
    join separator (piece :: others) = piece ++ separator :: join separator others := by
  cases others with
  | nil => exact absurd rfl h
  | cons next others => rfl

variable [DecidableEq α]

theorem split_ne_nil (separator : α) (whole : List α) : split separator whole ≠ [] := by
  cases whole with
  | nil => simp [split]
  | cons c rest =>
    rw [split]
    split
    · simp
    · split <;> simp

theorem join_split (separator : α) (whole : List α) :
    join separator (split separator whole) = whole := by
  induction whole with
  | nil => rfl
  | cons c rest ih =>
    rw [split]
    split
    · rename_i hc
      rw [join_cons_of_ne_nil _ _ (split_ne_nil separator rest), ih, hc]
      rfl
    · split
      · rename_i h
        exact absurd h (split_ne_nil separator rest)
      · rename_i piece others h
        rw [h] at ih
        cases others with
        | nil => simpa [join] using ih
        | cons next others => simpa [join] using ih

theorem split_append_cons (separator : α) {piece : List α} (h : separator ∉ piece)
    (rest : List α) :
    split separator (piece ++ separator :: rest) = piece :: split separator rest := by
  induction piece with
  | nil => simp [split]
  | cons c piece ih =>
    rw [List.mem_cons, not_or] at h
    rw [List.cons_append, split, if_neg (Ne.symm h.1), ih h.2]

theorem split_eq_singleton (separator : α) {piece : List α} (h : separator ∉ piece) :
    split separator piece = [piece] := by
  induction piece with
  | nil => rfl
  | cons c piece ih =>
    rw [List.mem_cons, not_or] at h
    rw [split, if_neg (Ne.symm h.1), ih h.2]

theorem split_join (separator : α) {pieces : List (List α)} (hne : pieces ≠ [])
    (h : ∀ piece ∈ pieces, separator ∉ piece) :
    split separator (join separator pieces) = pieces := by
  induction pieces with
  | nil => exact absurd rfl hne
  | cons piece others ih =>
    have hpiece := h piece List.mem_cons_self
    cases others with
    | nil => exact split_eq_singleton separator hpiece
    | cons next others =>
      rw [join, split_append_cons separator hpiece,
        ih (by simp) fun p hp => h p (List.mem_cons_of_mem piece hp)]

theorem notMem_of_mem_split {separator : α} {whole piece : List α}
    (h : piece ∈ split separator whole) : separator ∉ piece := by
  induction whole generalizing piece with
  | nil =>
    rw [split, List.mem_singleton] at h
    simp [h]
  | cons c rest ih =>
    rw [split] at h
    split at h
    · rcases List.mem_cons.1 h with rfl | h
      · exact List.not_mem_nil
      · exact ih h
    · rename_i hc
      split at h
      · rename_i hnil
        exact absurd hnil (split_ne_nil separator rest)
      · rename_i first others heq
        rcases List.mem_cons.1 h with rfl | h
        · rw [List.mem_cons, not_or]
          exact ⟨Ne.symm hc, ih (heq ▸ List.mem_cons_self)⟩
        · exact ih (heq ▸ List.mem_cons_of_mem first h)

end StyleConstants.Text
