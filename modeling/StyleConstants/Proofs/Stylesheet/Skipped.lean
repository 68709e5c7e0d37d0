import StyleConstants.Proofs.Stylesheet.Scan
import StyleConstants.Stylesheet.Braced

/-!
# Text that is skipped

The body of a block and the filler between two statements leave no trace in the nodes. A body is
skipped to its own closing brace: literals and comments hide what they hold, braces are counted,
and so are parentheses, since two slashes open no comment inside them.

* `BlockBody`, `Filler`: what may be skipped.
* `skipBlock_body`: a block is left at the brace that closes it.
* `skipFiller_filler`: filler is passed as a whole.
-/

namespace StyleConstants.Stylesheet

open Text (LiteralBody)

/-- No quote, no parenthesis and no brace. -/
def IsBodyChar (c : Char) : Prop := c ∉ ['"', '\'', '(', ')', '{', '}']

instance (c : Char) : Decidable (IsBodyChar c) := inferInstanceAs (Decidable (c ∉ _))

/-- Text that may stand in a block, inside parentheses or outside of all. -/
inductive BlockBody : Bool → List Char → Prop
  | nil {inParens : Bool} : BlockBody inParens []
  | char {inParens : Bool} {c : Char} {text : List Char} (hplain : IsBodyChar c)
      (hslash : c = '/' → text.head? ≠ some '*' ∧ (inParens = false → text.head? ≠ some '/')) :
      BlockBody inParens text → BlockBody inParens (c :: text)
  | literal {inParens : Bool} {quote : Char} {body text : List Char}
      (hquote : Lexeme.isQuote quote = true) (hbody : LiteralBody false quote body) :
      BlockBody inParens text → BlockBody inParens (quote :: (body ++ quote :: text))
  | blockComment {inParens : Bool} {comment text : List Char} (hcomment : CommentBody comment) :
      BlockBody inParens text →
      BlockBody inParens ('/' :: '*' :: (comment ++ '*' :: '/' :: text))
  | lineComment {line text : List Char} (hline : '\n' ∉ line) :
      BlockBody false text → BlockBody false ('/' :: '/' :: (line ++ '\n' :: text))
  | parens {inParens : Bool} {inner text : List Char} :
      BlockBody true inner → BlockBody inParens text →
      BlockBody inParens ('(' :: (inner ++ ')' :: text))
  | braces {inParens : Bool} {inner text : List Char} :
      BlockBody inParens inner → BlockBody inParens text →
      BlockBody inParens ('{' :: (inner ++ '}' :: text))

/-- Text that may stand between two statements: blanks, semicolons and comments, each line comment
with the end of its line. -/
inductive Filler : List Char → Prop
  | nil : Filler []
  | char {c : Char} {text : List Char} (hc : Text.isBlank c = true ∨ c = ';') :
      Filler text → Filler (c :: text)
  | blockComment {comment text : List Char} (hcomment : CommentBody comment) :
      Filler text → Filler ('/' :: '*' :: (comment ++ '*' :: '/' :: text))
  | lineComment {line text : List Char} (hline : '\n' ∉ line) :
      Filler text → Filler ('/' :: '/' :: (line ++ '\n' :: text))

namespace Braced

open Lexeme

/-! ## Blocks -/

section Block

variable {entry text rest : List Char} {depth : Depth}

/-- One step, once the next lexeme is known. -/
theorem skipBlock_of_next {lexeme : Lexeme}
    (hnext : next (depth.parens == 0) text = .ok (some (lexeme, rest))) :
    skipBlock entry depth text =
      match depth.after? lexeme with
      | none => .ok rest
      | some depth => skipBlock entry depth rest := by
  rw [skipBlock]
  split
  · rename_i h
    cases h.symm.trans hnext
  · rename_i h
    cases h.symm.trans hnext
  · rename_i h
    cases h.symm.trans hnext
    rfl

theorem skipBlock_next {depth' : Depth} {lexeme : Lexeme}
    (hnext : next (depth.parens == 0) text = .ok (some (lexeme, rest)))
    (hafter : depth.after? lexeme = some depth') :
    skipBlock entry depth text = skipBlock entry depth' rest := by
  rw [skipBlock_of_next hnext, hafter]

theorem skipBlock_end {lexeme : Lexeme}
    (hnext : next (depth.parens == 0) text = .ok (some (lexeme, rest)))
    (hafter : depth.after? lexeme = none) : skipBlock entry depth text = .ok rest := by
  rw [skipBlock_of_next hnext, hafter]

theorem skipBlock_openBrace (braces parens : Nat) :
    skipBlock entry ⟨braces, parens⟩ ('{' :: rest) = skipBlock entry ⟨braces + 1, parens⟩ rest :=
  skipBlock_next (next_ordinary (by decide) rest) rfl

theorem skipBlock_closeBrace (braces parens : Nat) :
    skipBlock entry ⟨braces + 1, parens⟩ ('}' :: rest) = skipBlock entry ⟨braces, parens⟩ rest :=
  skipBlock_next (next_ordinary (by decide) rest) rfl

theorem skipBlock_openParen (braces parens : Nat) :
    skipBlock entry ⟨braces, parens⟩ ('(' :: rest) = skipBlock entry ⟨braces, parens + 1⟩ rest :=
  skipBlock_next (next_ordinary (by decide) rest) rfl

theorem skipBlock_closeParen (braces parens : Nat) :
    skipBlock entry ⟨braces, parens + 1⟩ (')' :: rest) = skipBlock entry ⟨braces, parens⟩ rest :=
  skipBlock_next (next_ordinary (by decide) rest) rfl

theorem skipBlock_ownBrace (parens : Nat) :
    skipBlock entry ⟨0, parens⟩ ('}' :: rest) = .ok rest :=
  skipBlock_end (next_ordinary (by decide) rest) rfl

theorem after?_char {c : Char} (h : IsBodyChar c) : depth.after? (.char c) = some depth := by
  have hc : ∀ d, d ∈ ['(', ')', '{', '}'] → c ≠ d := by
    rintro d hd rfl
    simp only [List.mem_cons, List.not_mem_nil, or_false] at hd
    rcases hd with rfl | rfl | rfl | rfl <;> exact absurd h (by decide)
  unfold Depth.after?
  split
  · rename_i hlexeme
    cases hlexeme
  · rename_i hlexeme
    cases hlexeme
    exact absurd rfl (hc '{' (by decide))
  · rename_i hlexeme
    cases hlexeme
    exact absurd rfl (hc '}' (by decide))
  · rename_i hlexeme
    cases hlexeme
    exact absurd rfl (hc '(' (by decide))
  · rename_i hlexeme
    cases hlexeme
    exact absurd rfl (hc ')' (by decide))
  · rfl

theorem skipBlock_char {c : Char} (hplain : IsBodyChar c)
    (hslash : c = '/' → rest.head? ≠ some '*' ∧
      ((depth.parens == 0) = true → rest.head? ≠ some '/')) :
    skipBlock entry depth (c :: rest) = skipBlock entry depth rest := by
  by_cases hinterpolation : c = '#' ∧ rest.head? = some '{'
  · -- a number sign before a brace is one lexeme with it, and counts like the brace alone
    obtain ⟨rfl, hhead⟩ := hinterpolation
    cases rest with
    | nil => cases hhead
    | cons d rest =>
      cases hhead
      rw [skipBlock_openBrace, skipBlock_next (next_interpolation _ rest) rfl]
  · have hquote : isQuote c = false := by
      rw [isQuote_eq_false_iff]
      exact ⟨fun h => absurd hplain (by rw [h]; decide), fun h => absurd hplain (by rw [h]; decide)⟩
    have hnext := next_eq_char hquote hslash fun hc hhead => hinterpolation ⟨hc, hhead⟩
    exact skipBlock_next hnext (after?_char hplain)

/-- Text that may stand in a block is passed at the same depth. -/
theorem skipBlock_body {inParens : Bool} (h : BlockBody inParens text) :
    ∀ {braces parens : Nat} {rest : List Char}, (parens = 0 ↔ inParens = false) →
      KeepsSlash rest →
      skipBlock entry ⟨braces, parens⟩ (text ++ rest) = skipBlock entry ⟨braces, parens⟩ rest := by
  induction h with
  | nil =>
    intro braces parens rest _ _
    rfl
  | @char inParens c text hplain hslash _ ih =>
    intro braces parens rest hparens hkeeps
    have hcomment : c = '/' → (text ++ rest).head? ≠ some '*' ∧
        ((parens == 0) = true → (text ++ rest).head? ≠ some '/') := by
      intro hc
      cases text with
      | nil => exact ⟨fun h => (hkeeps _ h).2 rfl, fun _ h => (hkeeps _ h).1 rfl⟩
      | cons d text =>
        exact ⟨(hslash hc).1, fun hzero => (hslash hc).2 (hparens.1 (beq_iff_eq.1 hzero))⟩
    rw [List.cons_append, skipBlock_char hplain hcomment, ih hparens hkeeps]
  | @literal inParens quote body text hquote hbody _ ih =>
    intro braces parens rest hparens hkeeps
    rw [List.cons_append, List.append_assoc, List.cons_append,
      skipBlock_next (next_literal _ hquote hbody _) rfl, ih hparens hkeeps]
  | @blockComment inParens comment text hcomment _ ih =>
    intro braces parens rest hparens hkeeps
    rw [List.cons_append, List.cons_append, List.append_assoc, List.cons_append, List.cons_append,
      skipBlock_next (next_blockComment _ hcomment _) rfl, ih hparens hkeeps]
  | @lineComment line text hline _ ih =>
    intro braces parens rest hparens hkeeps
    obtain rfl : parens = 0 := hparens.2 rfl
    have hbreak : skipBlock entry ⟨braces, 0⟩ ('\n' :: (text ++ rest)) =
        skipBlock entry ⟨braces, 0⟩ (text ++ rest) :=
      skipBlock_char (by decide) fun h => absurd h (by decide)
    have hnext : next ((Depth.mk braces 0).parens == 0)
        ('/' :: '/' :: (line ++ '\n' :: (text ++ rest))) =
          .ok (some (.lineComment, '\n' :: (text ++ rest))) :=
      next_lineComment hline _
    rw [List.cons_append, List.cons_append, List.append_assoc, List.cons_append,
      skipBlock_next hnext rfl, hbreak, ih hparens hkeeps]
  | @parens inParens inner text _ _ ihInner ih =>
    intro braces parens rest hparens hkeeps
    have hinner : parens + 1 = 0 ↔ true = false := by simp
    have hcloser : KeepsSlash (')' :: (text ++ rest)) := .cons (by decide) _
    rw [List.cons_append, List.append_assoc, List.cons_append, skipBlock_openParen,
      ihInner hinner hcloser, skipBlock_closeParen, ih hparens hkeeps]
  | @braces inParens inner text _ _ ihInner ih =>
    intro braces parens rest hparens hkeeps
    have hcloser : KeepsSlash ('}' :: (text ++ rest)) := .cons (by decide) _
    rw [List.cons_append, List.append_assoc, List.cons_append, skipBlock_openBrace,
      ihInner hparens hcloser, skipBlock_closeBrace, ih hparens hkeeps]

theorem skipBlock_block (h : BlockBody false text) :
    skipBlock entry ⟨0, 0⟩ (text ++ '}' :: rest) = .ok rest := by
  have hcloser : KeepsSlash ('}' :: rest) := .cons (by decide) rest
  rw [skipBlock_body h (by simp) hcloser, skipBlock_ownBrace]

end Block

/-! ## Filler -/

theorem skipFiller_nil : skipFiller [] = .ok [] := by
  rw [skipFiller.eq_def]

theorem skipFiller_cons (c : Char) (rest : List Char) :
    skipFiller (c :: rest) =
      if Text.isBlank c || c == ';' then skipFiller rest
      else if c = '/' ∧ rest.head? = some '/' then skipFiller (afterLine rest)
      else if c = '/' ∧ rest.head? = some '*' then
        match closeComment rest.tail with
        | none => .error ⟨.openComment, c :: rest⟩
        | some after => skipFiller after
      else .ok (c :: rest) := by
  rw [skipFiller.eq_def]
  dsimp only
  by_cases hskip : (Text.isBlank c || c == ';') = true
  · rw [if_pos hskip, if_pos hskip]
  · rw [if_neg hskip, if_neg hskip]
    by_cases hline : c = '/' ∧ rest.head? = some '/'
    · rw [if_pos hline, if_pos hline]
    · rw [if_neg hline, if_neg hline]
      by_cases hblock : c = '/' ∧ rest.head? = some '*'
      · rw [if_pos hblock, if_pos hblock]
        cases closeComment rest.tail <;> rfl
      · rw [if_neg hblock, if_neg hblock]

theorem skipFiller_skip {c : Char} (hc : Text.isBlank c = true ∨ c = ';') (rest : List Char) :
    skipFiller (c :: rest) = skipFiller rest := by
  have hskip : (Text.isBlank c || c == ';') = true := by
    rwa [Bool.or_eq_true, beq_iff_eq]
  rw [skipFiller_cons, if_pos hskip]

theorem not_skipped_slash : ¬ (Text.isBlank '/' || '/' == ';') = true := by decide

theorem skipFiller_lineComment (rest : List Char) :
    skipFiller ('/' :: '/' :: rest) = skipFiller (afterLine ('/' :: rest)) := by
  have hline : '/' = '/' ∧ ('/' :: rest).head? = some '/' := ⟨rfl, rfl⟩
  rw [skipFiller_cons, if_neg not_skipped_slash, if_pos hline]

theorem skipFiller_blockComment {rest after : List Char} (h : closeComment rest = some after) :
    skipFiller ('/' :: '*' :: rest) = skipFiller after := by
  have hline : ¬ ('/' = '/' ∧ ('*' :: rest).head? = some '/') := by simp
  have hblock : '/' = '/' ∧ ('*' :: rest).head? = some '*' := ⟨rfl, rfl⟩
  rw [skipFiller_cons, if_neg not_skipped_slash, if_neg hline, if_pos hblock, List.tail_cons, h]

theorem skipFiller_filler {filler : List Char} (h : Filler filler) (rest : List Char) :
    skipFiller (filler ++ rest) = skipFiller rest := by
  induction h with
  | nil => rfl
  | @char c text hc _ ih => rw [List.cons_append, skipFiller_skip hc, ih]
  | @blockComment comment text hcomment _ ih =>
    have hclose := closeComment_body hcomment (text ++ rest)
    rw [List.cons_append, List.cons_append, List.append_assoc, List.cons_append, List.cons_append,
      skipFiller_blockComment hclose, ih]
  | @lineComment line text hline _ ih =>
    have hline' : '\n' ∉ '/' :: line := by
      rw [List.mem_cons, not_or]
      exact ⟨by decide, hline⟩
    have hafter : afterLine ('/' :: (line ++ '\n' :: (text ++ rest))) = '\n' :: (text ++ rest) :=
      afterLine_line hline' (text ++ rest)
    rw [List.cons_append, List.cons_append, List.append_assoc, List.cons_append,
      skipFiller_lineComment, hafter, skipFiller_skip (.inl (by decide)), ih]

/-- Filler ends where a statement starts. -/
theorem skipFiller_start {c : Char} {rest : List Char} (hblank : Text.isBlank c = false)
    (hsemicolon : c ≠ ';') (hslash : c = '/' → KeepsSlash rest) :
    skipFiller (c :: rest) = .ok (c :: rest) := by
  have hskip : ¬ (Text.isBlank c || c == ';') = true := by
    simp [hblank, hsemicolon]
  have hline : ¬ (c = '/' ∧ rest.head? = some '/') :=
    fun h => (hslash h.1 _ h.2).1 rfl
  have hcomment : ¬ (c = '/' ∧ rest.head? = some '*') :=
    fun h => (hslash h.1 _ h.2).2 rfl
  rw [skipFiller_cons, if_neg hskip, if_neg hline, if_neg hcomment]

end Braced

end StyleConstants.Stylesheet
