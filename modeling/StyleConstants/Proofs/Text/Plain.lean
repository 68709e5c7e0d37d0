import StyleConstants.Text.Blank

/-!
# Plain characters and literals

The characters that open and close nothing in a stylesheet, and what may stand between two quotes.
-/

namespace StyleConstants.Text

/-- No quote, no bracket, no brace and no semicolon. -/
def IsPlain (c : Char) : Prop := c ∉ ['"', '\'', '(', ')', '[', ']', '{', '}', ';']

instance (c : Char) : Decidable (IsPlain c) := inferInstanceAs (Decidable (c ∉ _))

/-- What can be checked of each character of a text holds of all. -/
theorem forall_mem_of_all {p : Char → Prop} [DecidablePred p] {characters : List Char}
    (h : (characters.all fun c => decide (p c)) = true) : ∀ c ∈ characters, p c := by
  intro c hc
  exact of_decide_eq_true (List.all_eq_true.1 h c hc)

theorem IsPlain.ne {c d : Char} (h : IsPlain c) (hd : ¬ IsPlain d) : c ≠ d := by
  rintro rfl
  exact hd h

theorem isPlain_of_isBlank {c : Char} (h : isBlank c = true) : IsPlain c ∧ c ≠ '/' ∧ c ≠ '*' := by
  have hne : ∀ d, d ∈ ['"', '\'', '(', ')', '[', ']', '{', '}', ';', '/', '*'] → c ≠ d := by
    rintro d hd rfl
    revert h
    simp only [List.mem_cons, List.not_mem_nil, or_false] at hd
    rcases hd with rfl | rfl | rfl | rfl | rfl | rfl | rfl | rfl | rfl | rfl | rfl <;> decide
  exact ⟨fun hmem => hne c (List.mem_append_left ['/', '*'] hmem) rfl, hne '/' (by decide),
    hne '*' (by decide)⟩

/-- What may stand between two quotes: an escaped character may be any, another one ends neither
the literal nor, unless `breaks` holds, its line. -/
inductive LiteralBody (breaks : Bool) (quote : Char) : List Char → Prop
  | nil : LiteralBody breaks quote []
  | char {c : Char} {rest : List Char} (hquote : c ≠ quote) (hescape : c ≠ '\\')
      (hbreak : c = '\n' → breaks = true) :
      LiteralBody breaks quote rest → LiteralBody breaks quote (c :: rest)
  | escape {c : Char} {rest : List Char} :
      LiteralBody breaks quote rest → LiteralBody breaks quote ('\\' :: c :: rest)

end StyleConstants.Text
