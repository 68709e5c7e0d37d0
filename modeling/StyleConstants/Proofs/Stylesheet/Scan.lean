import StyleConstants.Proofs.Text.Plain
import StyleConstants.Stylesheet.Lexeme

/-!
# Lexemes of written text

What `Lexeme.next` reads off a text that was written as a string literal, a comment or a plain
character, whatever follows it.

* `CommentBody`, `KeepsSlash`: what may stand in a comment, and what starts none after a slash.
* `next_literal`, `next_blockComment`, `next_lineComment`, `next_eq_char`: one fact a lexeme.
-/

namespace StyleConstants.Stylesheet

open Text (LiteralBody)

/-- What may stand in a block comment. -/
def CommentBody (text : List Char) : Prop := ¬ ['*', '/'] <:+: text

/-- The text cannot turn a slash in front of it into the start of a comment. -/
def KeepsSlash (text : List Char) : Prop := ∀ c ∈ text.head?, c ≠ '/' ∧ c ≠ '*'

theorem KeepsSlash.cons {c : Char} (h : c ≠ '/' ∧ c ≠ '*') (text : List Char) :
    KeepsSlash (c :: text) := by
  intro d hd
  cases hd
  exact h

theorem KeepsSlash.append {a b : List Char} (ha : KeepsSlash a) (hb : KeepsSlash b) :
    KeepsSlash (a ++ b) := by
  cases a with
  | nil => exact hb
  | cons c a => exact ha

theorem KeepsSlash.opens_no_comment {text : List Char} (h : KeepsSlash text) (lineComments : Bool) :
    text.head? ≠ some '*' ∧ (lineComments = true → text.head? ≠ some '/') :=
  ⟨fun hhead => (h _ hhead).2 rfl, fun _ hhead => (h _ hhead).1 rfl⟩

namespace Lexeme

theorem isQuote_iff {c : Char} : isQuote c = true ↔ c = '"' ∨ c = '\'' := by
  rw [isQuote, Bool.or_eq_true, beq_iff_eq, beq_iff_eq]

theorem isQuote_eq_false_iff {c : Char} : isQuote c = false ↔ c ≠ '"' ∧ c ≠ '\'' := by
  rw [← Bool.not_eq_true, isQuote_iff, not_or]

theorem closeQuote_literal {quote : Char} (hquote : isQuote quote = true) {body : List Char}
    (h : LiteralBody false quote body) (rest : List Char) :
    closeQuote quote (body ++ quote :: rest) = .ok (body ++ [quote], rest) := by
  induction h with
  | nil =>
    have hplain : quote ≠ '\n' ∧ quote ≠ '\\' := by
      rcases isQuote_iff.1 hquote with rfl | rfl <;> decide
    rw [List.nil_append, closeQuote, if_pos rfl, List.nil_append]
    · exact hplain.1
    · exact fun h _ => hplain.2 h
    · exact fun _ _ h => absurd h hplain.2
  | @char c body hc hescape hbreak h ih =>
    have hline : c ≠ '\n' := fun hc => Bool.false_ne_true (hbreak hc)
    rw [List.cons_append, closeQuote, if_neg hc, ih]
    · rfl
    · exact hline
    · exact fun h _ => hescape h
    · exact fun _ _ h => absurd h hescape
  | @escape c body h ih =>
    rw [List.cons_append, List.cons_append, closeQuote, ih]
    rfl

theorem closeComment_body {body : List Char} (h : CommentBody body) (rest : List Char) :
    closeComment (body ++ '*' :: '/' :: rest) = some rest := by
  induction body with
  | nil => rw [List.nil_append, closeComment]
  | cons c body ih =>
    have hbody : CommentBody body := fun hpart => h (hpart.trans (List.suffix_cons c body).isInfix)
    rw [List.cons_append, closeComment, ih hbody]
    -- the comment would end at once only if its body started with its end
    rintro rest' rfl hrest
    cases body with
    | nil => cases hrest
    | cons d body =>
      cases hrest
      exact h ⟨[], body, rfl⟩

theorem afterLine_line {line : List Char} (h : '\n' ∉ line) (rest : List Char) :
    afterLine (line ++ '\n' :: rest) = '\n' :: rest := by
  have hline : ∀ c ∈ line, decide (c ≠ '\n') = true := by
    intro c hc
    rw [decide_eq_true_eq]
    rintro rfl
    exact h hc
  rw [afterLine, List.dropWhile_append_of_pos hline, List.dropWhile_cons_of_neg]
  decide

theorem next_literal (lineComments : Bool) {quote : Char} (hquote : isQuote quote = true)
    {body : List Char} (h : LiteralBody false quote body) (rest : List Char) :
    next lineComments (quote :: (body ++ quote :: rest)) =
      .ok (some (.quoted (quote :: (body ++ [quote])), rest)) := by
  have hplain : quote ≠ '/' ∧ quote ≠ '#' := by
    rcases isQuote_iff.1 hquote with rfl | rfl <;> decide
  rw [next, if_pos hquote, closeQuote_literal hquote h]
  · exact fun _ h => absurd h hplain.1
  · exact fun _ h => absurd h hplain.1
  · exact fun _ h => absurd h hplain.2

theorem next_blockComment (lineComments : Bool) {body : List Char} (h : CommentBody body)
    (rest : List Char) :
    next lineComments ('/' :: '*' :: (body ++ '*' :: '/' :: rest)) =
      .ok (some (.blockComment, rest)) := by
  rw [next, closeComment_body h]

theorem next_lineComment {line : List Char} (h : '\n' ∉ line) (rest : List Char) :
    next true ('/' :: '/' :: (line ++ '\n' :: rest)) = .ok (some (.lineComment, '\n' :: rest)) := by
  rw [next, if_pos rfl, afterLine_line h]

theorem next_interpolation (lineComments : Bool) (rest : List Char) :
    next lineComments ('#' :: '{' :: rest) = .ok (some (.interpolation, rest)) := by
  rw [next]

/-- A character that starts no longer lexeme is a lexeme of its own. -/
theorem next_eq_char {lineComments : Bool} {c : Char} {rest : List Char}
    (hquote : isQuote c = false)
    (hslash : c = '/' → rest.head? ≠ some '*' ∧ (lineComments = true → rest.head? ≠ some '/'))
    (hhash : c = '#' → rest.head? ≠ some '{') :
    next lineComments (c :: rest) = .ok (some (.char c, rest)) := by
  unfold next
  split
  · rename_i htext
    cases htext
  · rename_i htext
    cases htext
    exact absurd rfl (hslash rfl).1
  · rename_i htext
    cases htext
    by_cases hcomments : lineComments = true
    · exact absurd rfl ((hslash rfl).2 hcomments)
    · rw [if_neg hcomments]
  · rename_i htext
    cases htext
    exact absurd rfl (hhash rfl)
  · rename_i htext
    cases htext
    rw [if_neg (by rw [hquote]; decide)]

theorem next_ordinary {lineComments : Bool} {c : Char}
    (h : isQuote c = false ∧ c ≠ '/' ∧ c ≠ '#') (rest : List Char) :
    next lineComments (c :: rest) = .ok (some (.char c, rest)) :=
  next_eq_char h.1 (fun hc => absurd hc h.2.1) fun hc => absurd hc h.2.2

end Lexeme

end StyleConstants.Stylesheet
