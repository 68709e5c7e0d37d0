import StyleConstants.Text.Lines
import StyleConstants.Text.Split

/-!
# Lines of a text with more text behind it

Behind a line break a text starts a line of its own, so that the lines of two texts with a break
between them are those of the first, the last one ended, and those of the second.

* `Continues`: what the break does to the lines in front of it.
* `lines_append_line`, `lines_last`: the lines one by one.
* `continues_lines`, `length_lines_append`: the lines of two texts and their number.
* `exists_piece_of_getElem?_lines`, `length_lines_le`: the lines of a text and the pieces between
  its breaks.
-/

namespace StyleConstants.Text

/-- The line without the carriage return that belongs to the break behind it. -/
def chomp (line : List Char) : List Char :=
  if line.getLast? = some '\r' then line.dropLast else line

theorem chomp_cases (line : List Char) : chomp line = line ∨ line = chomp line ++ ['\r'] := by
  rw [chomp]
  split
  · rename_i h
    obtain ⟨front, rfl⟩ := List.getLast?_eq_some_iff.1 h
    rw [List.dropLast_concat]
    exact .inr rfl
  · exact .inl rfl

theorem chomp_eq_self {line : List Char} (h : '\r' ∉ line) : chomp line = line :=
  if_neg fun hlast => h (List.mem_of_getLast? hlast)

/-- The lines `later` are the lines `earlier`, ended by a line break, and the lines `more` behind
it, which makes `gap` lines more than before. The break is a line of its own where none is open, and
takes the carriage return from the end of one that is. -/
inductive Continues (more : List (List Char)) : Nat → List (List Char) → List (List Char) → Prop
  | ended : Continues more more.length [] more
  | empty : Continues more (more.length + 1) [] ([] :: more)
  | returned (line : List Char) : Continues more more.length [line ++ ['\r']] (line :: more)
  | cons {gap : Nat} {line : List Char} {earlier later : List (List Char)} :
      Continues more gap earlier later → Continues more gap (line :: earlier) (line :: later)

theorem Continues.length_eq {more earlier later : List (List Char)} {gap : Nat}
    (h : Continues more gap earlier later) : later.length = earlier.length + gap := by
  induction h with
  | ended => exact (Nat.zero_add _).symm
  | empty => exact (Nat.zero_add _).symm
  | returned => exact Nat.add_comm _ _
  | cons _ ih =>
    rw [List.length_cons, List.length_cons, ih]
    omega

/-- The first line changes only if it is the last one. -/
theorem Continues.cons_inv {more rest later : List (List Char)} {line : List Char} {gap : Nat}
    (h : Continues more gap (line :: rest) later) :
    ∃ line' rest', later = line' :: rest' ∧ Continues more gap rest rest' ∧
      (line = line' ∨ (line = line' ++ ['\r'] ∧ rest = [])) := by
  cases h with
  | returned => exact ⟨_, more, rfl, .ended, .inr ⟨rfl, rfl⟩⟩
  | cons h => exact ⟨line, _, rfl, h, .inl rfl⟩

/-! ## Line by line -/

/-- A character that ends no line is put in front of the first line. -/
theorem lines_cons {c : Char} {rest : List Char} (hc : c ≠ '\n')
    (hreturn : c = '\r' → rest.head? ≠ some '\n') :
    lines (c :: rest) =
      match lines rest with
      | [] => [[c]]
      | line :: others => (c :: line) :: others := by
  rw [lines.eq_def]
  split
  · rename_i h
    cases h
  · rename_i h
    cases h
    exact absurd rfl hc
  · rename_i h
    cases h
    exact absurd rfl (hreturn rfl)
  · rename_i h
    cases h
    rfl

/-- A carriage return in front of a line break is part of the break. -/
theorem lines_return (rest : List Char) : lines ('\r' :: '\n' :: rest) = lines ('\n' :: rest) := by
  rw [lines, lines]

theorem lines_ne_nil {text : List Char} (h : text ≠ []) : lines text ≠ [] := by
  rw [lines.eq_def]
  split
  · exact absurd rfl h
  · exact List.cons_ne_nil _ _
  · exact List.cons_ne_nil _ _
  · split <;> exact List.cons_ne_nil _ _

theorem lines_append_line {line : List Char} (h : '\n' ∉ line) (rest : List Char) :
    lines (line ++ '\n' :: rest) = chomp line :: lines rest := by
  induction line with
  | nil => rfl
  | cons c line ih =>
    rw [List.mem_cons, not_or] at h
    by_cases hreturn : c = '\r' ∧ line = []
    · obtain ⟨rfl, rfl⟩ := hreturn
      rw [List.singleton_append, lines_return]
      rfl
    · have hhead : c = '\r' → (line ++ '\n' :: rest).head? ≠ some '\n' := by
        intro hc hhead
        cases line with
        | nil => exact hreturn ⟨hc, rfl⟩
        | cons d line =>
          cases hhead
          exact h.2 List.mem_cons_self
      have hchomp : chomp (c :: line) = c :: chomp line := by
        cases line with
        | nil =>
          have hc : c ≠ '\r' := fun hc => hreturn ⟨hc, rfl⟩
          simp [chomp, hc]
        | cons d line =>
          rw [chomp, chomp, List.getLast?_cons_cons]
          split <;> rfl
      rw [List.cons_append, lines_cons (Ne.symm h.1) hhead, ih h.2, hchomp]

/-- The last line needs no break. -/
theorem lines_last {line : List Char} (h : '\n' ∉ line) (hne : line ≠ []) :
    lines line = [line] := by
  induction line with
  | nil => exact absurd rfl hne
  | cons c line ih =>
    rw [List.mem_cons, not_or] at h
    have hhead : c = '\r' → line.head? ≠ some '\n' :=
      fun _ hhead => h.2 (List.mem_of_head? hhead)
    rw [lines_cons (Ne.symm h.1) hhead]
    by_cases hline : line = []
    · rw [hline, lines]
    · rw [ih h.2 hline]

/-! ## Two texts -/

theorem continues_lines (a b : List Char) :
    ∃ gap, Continues (lines b) gap (lines a) (lines (a ++ '\n' :: b)) := by
  induction a with
  | nil =>
    rw [List.nil_append, lines, lines]
    exact ⟨_, .empty⟩
  | cons c rest ih =>
    obtain ⟨gap, h⟩ := ih
    by_cases hc : c = '\n'
    · rw [hc, List.cons_append, lines, lines]
      exact ⟨gap, h.cons⟩
    · by_cases hreturn : c = '\r' ∧ rest.head? = some '\n'
      · obtain ⟨rfl, hhead⟩ := hreturn
        obtain ⟨rest, rfl⟩ := List.head?_eq_some_iff.1 hhead
        rw [List.cons_append, List.cons_append, lines_return, lines_return]
        exact ⟨gap, h⟩
      · rw [lines_cons hc fun hr hhead => hreturn ⟨hr, hhead⟩]
        by_cases hrest : rest = []
        · subst hrest
          rw [lines]
          dsimp only
          by_cases hr : c = '\r'
          · rw [hr, List.singleton_append, lines_return, lines]
            exact ⟨_, .returned []⟩
          · rw [List.singleton_append, lines_cons hc fun hr' => absurd hr' hr, lines]
            exact ⟨_, .cons .ended⟩
        · have hhead : c = '\r' → (rest ++ '\n' :: b).head? ≠ some '\n' := by
            intro hr hhead
            rw [List.head?_append, List.head?_eq_some_head hrest, Option.some_or] at hhead
            exact hreturn ⟨hr, (List.head?_eq_some_head hrest).trans hhead⟩
          obtain ⟨line, others, hlines⟩ := List.exists_cons_of_ne_nil (lines_ne_nil hrest)
          rw [hlines] at h ⊢
          rw [List.cons_append, lines_cons hc hhead]
          generalize lines (rest ++ '\n' :: b) = later at h
          cases h with
          | returned line => exact ⟨_, .returned (c :: line)⟩
          | cons h => exact ⟨gap, h.cons⟩

theorem join_append (separator : Char) {pieces others : List (List Char)} (hpieces : pieces ≠ [])
    (hothers : others ≠ []) : join separator (pieces ++ others) =
      join separator pieces ++ separator :: join separator others := by
  induction pieces with
  | nil => exact absurd rfl hpieces
  | cons piece pieces ih =>
    by_cases hnil : pieces = []
    · rw [hnil, List.singleton_append, join_cons_of_ne_nil _ _ hothers, join]
    · have hne : pieces ++ others ≠ [] := List.append_ne_nil_of_left_ne_nil hnil others
      rw [List.cons_append, join_cons_of_ne_nil _ _ hne, ih hnil, join_cons_of_ne_nil _ _ hnil,
        List.append_assoc, List.cons_append]

/-- Pieces with breaks in between are lines, and behind one more break so is what follows. -/
theorem lines_join_append {pieces : List (List Char)} (hne : pieces ≠ [])
    (h : ∀ piece ∈ pieces, '\n' ∉ piece) (more : List Char) :
    lines (join '\n' pieces ++ '\n' :: more) = pieces.map chomp ++ lines more := by
  induction pieces with
  | nil => exact absurd rfl hne
  | cons piece others ih =>
    have hpiece := h piece List.mem_cons_self
    by_cases hothers : others = []
    · rw [hothers, join, lines_append_line hpiece]
      rfl
    · have hlines := ih hothers fun other hmem => h other (List.mem_cons_of_mem piece hmem)
      rw [join_cons_of_ne_nil _ _ hothers, List.append_assoc, List.cons_append,
        lines_append_line hpiece, hlines]
      rfl

theorem length_lines_append (a b : List Char) :
    (lines (a ++ '\n' :: b)).length = newlines a + 1 + (lines b).length := by
  induction a with
  | nil =>
    rw [List.nil_append, lines, newlines, List.count_nil, List.length_cons]
    omega
  | cons c rest ih =>
    by_cases hc : c = '\n'
    · rw [hc, List.cons_append, lines, List.length_cons, ih, newlines, newlines,
        List.count_cons_self]
      omega
    · have hcount : newlines (c :: rest) = newlines rest := List.count_cons_of_ne hc
      rw [hcount, ← ih, List.cons_append]
      by_cases hreturn : c = '\r' ∧ (rest ++ '\n' :: b).head? = some '\n'
      · obtain ⟨rfl, hhead⟩ := hreturn
        obtain ⟨more, hmore⟩ := List.head?_eq_some_iff.1 hhead
        rw [hmore, lines_return]
      · rw [lines_cons hc fun hr hhead => hreturn ⟨hr, hhead⟩]
        have hne : lines (rest ++ '\n' :: b) ≠ [] := lines_ne_nil (by simp)
        obtain ⟨line, others, hlines⟩ := List.exists_cons_of_ne_nil hne
        rw [hlines]
        rfl

/-! ## Pieces between breaks -/

theorem length_split (separator : Char) (text : List Char) :
    (split separator text).length = text.count separator + 1 := by
  induction text with
  | nil => rfl
  | cons c rest ih =>
    rw [split]
    split
    · rename_i hc
      rw [List.length_cons, ih, hc, List.count_cons_self]
    · rename_i hc
      rw [List.count_cons_of_ne hc, ← ih]
      obtain ⟨piece, others, hsplit⟩ := List.exists_cons_of_ne_nil (split_ne_nil separator rest)
      rw [hsplit]
      rfl

/-- The lines of a text are the pieces between its breaks, without the carriage returns that belong
to the breaks; the last piece is a line unless it is empty. -/
theorem exists_lines_eq (text : List Char) : ∃ pieces last,
    split '\n' text = pieces ++ [last] ∧
      lines text = pieces.map chomp ++ if last = [] then [] else [last] := by
  obtain ⟨pieces, last, hsplit⟩ : ∃ pieces last, split '\n' text = pieces ++ [last] :=
    ⟨_, _, (List.dropLast_concat_getLast (split_ne_nil '\n' text)).symm⟩
  have htext : join '\n' (pieces ++ [last]) = text := by rw [← hsplit, join_split]
  have hbreak : ∀ piece ∈ pieces ++ [last], '\n' ∉ piece :=
    fun piece hpiece => notMem_of_mem_split (hsplit ▸ hpiece)
  have hlast : lines last = if last = [] then [] else [last] := by
    split
    · rename_i hempty
      rw [hempty, lines]
    · rename_i hempty
      exact lines_last (hbreak last (List.mem_append_right pieces List.mem_cons_self)) hempty
  refine ⟨pieces, last, hsplit, ?_⟩
  rw [← hlast, ← htext]
  by_cases hnil : pieces = []
  · rw [hnil]
    rfl
  · rw [join_append _ hnil (List.cons_ne_nil _ _),
      lines_join_append hnil fun piece hpiece => hbreak piece (List.mem_append_left [last] hpiece)]
    rfl

/-- A line is the piece in its place, up to the carriage return that belongs to the break. -/
theorem exists_piece_of_getElem?_lines {text line : List Char} {i : Nat}
    (h : (lines text)[i]? = some line) :
    ∃ piece, (split '\n' text)[i]? = some piece ∧ (line = piece ∨ line = chomp piece) := by
  obtain ⟨pieces, last, hsplit, hlines⟩ := exists_lines_eq text
  rw [hlines] at h
  rw [hsplit]
  by_cases hi : i < pieces.length
  · rw [List.getElem?_append_left (by simpa using hi), List.getElem?_map, Option.map_eq_some_iff]
      at h
    obtain ⟨piece, hpiece, rfl⟩ := h
    exact ⟨piece, by rw [List.getElem?_append_left hi, hpiece], .inr rfl⟩
  · rw [List.getElem?_append_right (by simpa using hi), List.length_map] at h
    rw [List.getElem?_append_right (Nat.le_of_not_lt hi)]
    split at h
    · cases h
    · exact ⟨line, h, .inl rfl⟩

/-- No line holds a line break. -/
theorem notMem_of_mem_lines {text line : List Char} (h : line ∈ lines text) : '\n' ∉ line := by
  obtain ⟨i, hi⟩ := List.mem_iff_getElem?.1 h
  obtain ⟨piece, hpiece, hline⟩ := exists_piece_of_getElem?_lines hi
  have hbreak : '\n' ∉ piece := notMem_of_mem_split (List.mem_of_getElem? hpiece)
  rcases hline with rfl | rfl
  · exact hbreak
  · rcases chomp_cases piece with hsame | hsplit
    · rwa [hsame]
    · rw [hsplit] at hbreak
      exact fun hmem => hbreak (List.mem_append_left _ hmem)

theorem length_lines_le (text : List Char) : (lines text).length ≤ 1 + newlines text := by
  obtain ⟨pieces, last, hsplit, hlines⟩ := exists_lines_eq text
  have hlength := length_split '\n' text
  rw [hsplit, List.length_append, List.length_singleton] at hlength
  rw [hlines, List.length_append, List.length_map, newlines]
  split <;> simp only [List.length_nil, List.length_singleton] <;> omega

end StyleConstants.Text
