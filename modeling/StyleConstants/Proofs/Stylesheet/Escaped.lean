import Mathlib.Data.List.Infix
import StyleConstants.Proofs.Stylesheet.Balanced
import StyleConstants.Proofs.Text.Blank
import StyleConstants.Stylesheet.Node

/-!
# Escaped texts as literals

A text escaped for a quote and put between two of them is one literal, whatever quotes and
backslashes it holds, and the import of that literal names the text. Only line breaks are beyond
escaping: a literal breaks off at the first one.

* `literalBody_escapeLiteral`: without a line break, an escaped text does not end its literal.
* `readStatement_escapeLiteral_fault`: with one, there is no literal.
* `importPath_literal`: what an import of an escaped text names.
-/

namespace StyleConstants.Stylesheet

open Text (IsPlain IsTrimmed LiteralBody)

variable {quote : Char} {text : List Char}

theorem ne_of_isQuote {c : Char} (hquote : Lexeme.isQuote quote = true)
    (hc : Lexeme.isQuote c = false) : quote ≠ c := by
  rintro rfl
  rw [hquote] at hc
  cases hc

theorem escapeLiteral_cons (quote c : Char) (text : List Char) :
    escapeLiteral quote (c :: text) =
      (if c = '\\' ∨ c = quote then ['\\', c] else [c]) ++ escapeLiteral quote text := rfl

theorem mem_of_mem_escapeLiteral {c : Char} (h : c ∈ escapeLiteral quote text) :
    c = '\\' ∨ c ∈ text := by
  obtain ⟨d, hd, hc⟩ := List.mem_flatMap.1 h
  split at hc
  · rcases List.mem_cons.1 hc with rfl | hc
    · exact .inl rfl
    · exact .inr (List.mem_singleton.1 hc ▸ hd)
  · exact .inr (List.mem_singleton.1 hc ▸ hd)

theorem literalBody_escapeLiteral (h : '\n' ∉ text) :
    LiteralBody false quote (escapeLiteral quote text) := by
  induction text with
  | nil => exact .nil
  | cons c text ih =>
    rw [List.mem_cons, not_or] at h
    rw [escapeLiteral_cons]
    split
    · exact .escape (ih h.2)
    · rename_i hplain
      rw [not_or] at hplain
      exact .char hplain.2 hplain.1 (fun hbreak => absurd hbreak.symm h.1) (ih h.2)

theorem closeQuote_escapeLiteral_fault (hquote : Lexeme.isQuote quote = true) (h : '\n' ∈ text)
    (rest : List Char) :
    ∃ place, Lexeme.closeQuote quote (escapeLiteral quote text ++ rest) = .error place := by
  have hescape : quote ≠ '\\' := ne_of_isQuote hquote (by decide)
  have hbreak : quote ≠ '\n' := ne_of_isQuote hquote (by decide)
  induction text with
  | nil => cases h
  | cons c text ih =>
    rw [escapeLiteral_cons]
    split
    · rename_i hc
      have hmem : '\n' ∈ text := by
        refine (List.mem_cons.1 h).resolve_left ?_
        rintro rfl
        rcases hc with hc | hc
        · exact absurd hc (by decide)
        · exact hbreak hc.symm
      obtain ⟨place, hplace⟩ := ih hmem
      exact ⟨place, by simp [Lexeme.closeQuote, hplace, Except.map]⟩
    · rename_i hc
      rw [not_or] at hc
      -- a line break is no quote and no backslash, so it stands in the literal as it is
      by_cases hline : c = '\n'
      · subst hline
        exact ⟨_, by rw [List.append_assoc, List.singleton_append, Lexeme.closeQuote]⟩
      · obtain ⟨place, hplace⟩ := ih ((List.mem_cons.1 h).resolve_left (Ne.symm hline))
        refine ⟨place, ?_⟩
        rw [List.append_assoc, List.singleton_append, Lexeme.closeQuote, if_neg hc.2, hplace]
        · rfl
        · exact hline
        · exact fun h _ => hc.1 h
        · exact fun _ _ h => absurd h hc.1

theorem next_openQuote (lineComments : Bool) (hquote : Lexeme.isQuote quote = true)
    {rest place : List Char} (h : Lexeme.closeQuote quote rest = .error place) :
    Lexeme.next lineComments (quote :: rest) = .error ⟨.openQuote quote, place⟩ := by
  have hslash : quote ≠ '/' := ne_of_isQuote hquote (by decide)
  have hhash : quote ≠ '#' := ne_of_isQuote hquote (by decide)
  rw [Lexeme.next, if_pos hquote, h]
  · exact fun _ h => absurd h hslash
  · exact fun _ h => absurd h hslash
  · exact fun _ h => absurd h hhash

theorem readStatement_escapeLiteral_fault (hquote : Lexeme.isQuote quote = true)
    (h : '\n' ∈ text) (owed rest : List Char) : ∃ fault,
      Braced.readStatement owed (quote :: (escapeLiteral quote text ++ rest)) = .error fault := by
  obtain ⟨place, hplace⟩ := closeQuote_escapeLiteral_fault hquote h rest
  have hnext := next_openQuote (!owed.contains ')') hquote hplace
  refine ⟨⟨.openQuote quote, place⟩, ?_⟩
  rw [Braced.readStatement]
  split
  · rename_i hnext'
    cases hnext'.symm.trans hnext
    rfl
  · rename_i hnext'
    cases hnext'.symm.trans hnext
  · rename_i hnext'
    cases hnext'.symm.trans hnext

/-! ## Imports -/

/-- The text as a literal. -/
def literal (quote : Char) (text : List Char) : List Char :=
  quote :: (escapeLiteral quote text ++ [quote])

theorem balanced_literal (hquote : Lexeme.isQuote quote = true) (h : '\n' ∉ text) :
    Balanced false (literal quote text) :=
  .literal hquote (literalBody_escapeLiteral h) .nil

theorem isTrimmed_literal (hquote : Lexeme.isQuote quote = true) (text : List Char) :
    IsTrimmed (literal quote text) := by
  have hblank : Text.isBlank quote = false := by
    rcases Lexeme.isQuote_iff.1 hquote with rfl | rfl <;> decide
  refine ⟨?_, ?_⟩
  · intro c hc
    cases hc
    exact hblank
  · intro c hc
    rw [literal, ← List.cons_append, List.getLast?_concat] at hc
    cases hc
    exact hblank

theorem literalOf_literal (hquote : Lexeme.isQuote quote = true) (text : List Char) :
    literalOf (literal quote text) = some text := by
  have htail := literalTail_escape (ne_of_isQuote hquote (by decide)) text
  rw [literalOf, Text.trim_eq_self (isTrimmed_literal hquote text), literal]
  rcases Lexeme.isQuote_iff.1 hquote with rfl | rfl
  · exact htail
  · exact htail

theorem importPath_literal (hquote : Lexeme.isQuote quote = true) (text : String) :
    AtRule.importPath ⟨"import", String.ofList (literal quote text.toList), false⟩ =
      if ['#', '{'] <:+: text.toList then none else some text := by
  rw [AtRule.importPath, if_pos ⟨rfl, rfl⟩, String.toList_ofList, importTarget,
    literalOf_literal hquote]
  dsimp only
  by_cases h : ['#', '{'] <:+: text.toList
  · rw [if_pos (Text.occursIn_iff.2 h), if_pos h]
    rfl
  · rw [if_neg fun hoccurs => h (Text.occursIn_iff.1 hoccurs), if_neg h, Option.map_some,
      String.ofList_toList]

end StyleConstants.Stylesheet
