import StyleConstants.Proofs.Stylesheet.Scan
import StyleConstants.Stylesheet.Braced

/-!
# Balanced text

A statement is read through balanced text without a change: every bracket that the text opens it
also closes, so the reader comes out of it with the closers that it owed before.

* `Balanced`: plain characters, literals and nested groups.
* `readStatement_balanced`: balanced text is read as it stands.
* `Balanced.append`: balanced texts may be joined where no comment arises at the joint.
-/

namespace StyleConstants.Stylesheet

open Text (IsPlain LiteralBody)

/-- The text opens a group that this character closes. A brace alone opens one only inside
another group. -/
inductive Opens : Bool → List Char → Char → Prop
  | parenthesis {inGroup : Bool} : Opens inGroup ['('] ')'
  | bracket {inGroup : Bool} : Opens inGroup ['['] ']'
  | interpolation {inGroup : Bool} : Opens inGroup ['#', '{'] '}'
  | brace : Opens true ['{'] '}'

/-- Text in which literals and groups are closed, comments do not occur, and semicolons stand in
groups only. -/
inductive Balanced : Bool → List Char → Prop
  | nil {inGroup : Bool} : Balanced inGroup []
  | char {inGroup : Bool} {c : Char} {text : List Char}
      (hplain : IsPlain c ∨ (inGroup = true ∧ c = ';')) (hslash : c = '/' → KeepsSlash text) :
      Balanced inGroup text → Balanced inGroup (c :: text)
  | literal {inGroup : Bool} {quote : Char} {body text : List Char}
      (hquote : Lexeme.isQuote quote = true) (hbody : LiteralBody false quote body) :
      Balanced inGroup text → Balanced inGroup (quote :: (body ++ quote :: text))
  | group {inGroup : Bool} {opening inner text : List Char} {closer : Char}
      (hopens : Opens inGroup opening closer) :
      Balanced true inner → Balanced inGroup text →
      Balanced inGroup (opening ++ (inner ++ closer :: text))

theorem Opens.head?_of_false {opening : List Char} {closer : Char}
    (h : Opens false opening closer) (text : List Char) :
    (opening ++ text).head? ≠ some '{' ∧ KeepsSlash (opening ++ text) := by
  cases h <;> exact ⟨by simp, .cons (by decide) _⟩

theorem Balanced.head?_ne {text : List Char} (h : Balanced false text) :
    text.head? ≠ some '{' := by
  cases h with
  | nil => simp
  | char hplain _ _ =>
    intro hhead
    cases hhead
    rcases hplain with hplain | ⟨hfalse, -⟩
    · exact absurd hplain (by decide)
    · cases hfalse
  | literal hquote _ _ =>
    intro hhead
    cases hhead
    exact absurd hquote (by decide)
  | group hopens _ _ => exact (hopens.head?_of_false _).1

/-- Where one text ends and another starts, no comment arises unless the second starts it. -/
theorem Balanced.append {inGroup : Bool} {a b : List Char} (ha : Balanced inGroup a)
    (hb : Balanced inGroup b) (hkeeps : KeepsSlash b) : Balanced inGroup (a ++ b) := by
  induction ha with
  | nil => exact hb
  | char hplain hslash _ ih =>
    exact .char hplain (fun hc => (hslash hc).append hkeeps) (ih hb)
  | literal hquote hbody _ ih =>
    rw [List.cons_append, List.append_assoc, List.cons_append]
    exact .literal hquote hbody (ih hb)
  | group hopens hinner _ _ ih =>
    rw [List.append_assoc, List.append_assoc, List.cons_append]
    exact .group hopens hinner (ih hb)

/-- Plain characters without a slash are balanced, whatever follows. -/
theorem Balanced.chars_append {inGroup : Bool} {characters text : List Char}
    (hplain : ∀ c ∈ characters, IsPlain c ∧ c ≠ '/') (h : Balanced inGroup text) :
    Balanced inGroup (characters ++ text) := by
  induction characters with
  | nil => exact h
  | cons c characters ih =>
    have hc := hplain c List.mem_cons_self
    have hrest : ∀ d ∈ characters, IsPlain d ∧ d ≠ '/' :=
      fun d hd => hplain d (List.mem_cons_of_mem c hd)
    exact .char (.inl hc.1) (fun hslash => absurd hslash hc.2) (ih hrest)

namespace Braced

open Lexeme

/-! ## One step of a statement -/

theorem map_prepend_map (reading : Except Fault Reading) (a b : List Char) :
    (reading.map (·.prepend a)).map (·.prepend b) = reading.map (·.prepend (b ++ a)) := by
  cases reading with
  | error fault => rfl
  | ok reading => simp [Except.map, Reading.prepend]

theorem map_prepend_nil (reading : Except Fault Reading) :
    reading.map (·.prepend []) = reading := by
  cases reading <;> rfl

/-- One step, once the next lexeme is known. -/
theorem readStatement_of_next {owed text rest : List Char} {lexeme : Lexeme}
    (hnext : next (!owed.contains ')') text = .ok (some (lexeme, rest))) :
    readStatement owed text =
      match endingAt owed lexeme text rest with
      | some reading => .ok reading
      | none =>
        match lexeme.nest owed with
        | .error cause => .error ⟨cause, text⟩
        | .ok owed => (readStatement owed rest).map (·.prepend lexeme.rendered) := by
  rw [readStatement]
  split
  · rename_i h
    cases h.symm.trans hnext
  · rename_i h
    cases h.symm.trans hnext
  · rename_i h
    cases h.symm.trans hnext
    rfl

theorem readStatement_next {owed owed' text rest : List Char} {lexeme : Lexeme}
    (hnext : next (!owed.contains ')') text = .ok (some (lexeme, rest)))
    (hend : endingAt owed lexeme text rest = none) (hnest : lexeme.nest owed = .ok owed') :
    readStatement owed text = (readStatement owed' rest).map (·.prepend lexeme.rendered) := by
  rw [readStatement_of_next hnext, hend, hnest]

theorem readStatement_ending {owed text rest : List Char} {lexeme : Lexeme} {reading : Reading}
    (hnext : next (!owed.contains ')') text = .ok (some (lexeme, rest)))
    (hend : endingAt owed lexeme text rest = some reading) :
    readStatement owed text = .ok reading := by
  rw [readStatement_of_next hnext, hend]

theorem endingAt_char {owed here rest : List Char} {c : Char}
    (h : owed ≠ [] ∨ (c ≠ ';' ∧ c ≠ '{' ∧ c ≠ '}')) :
    endingAt owed (.char c) here rest = none := by
  unfold endingAt
  split
  · rename_i hlexeme
    cases hlexeme
    rcases h with h | h
    · exact absurd rfl h
    · exact absurd rfl h.1
  · rename_i hlexeme
    cases hlexeme
    rcases h with h | h
    · exact absurd rfl h
    · exact absurd rfl h.2.1
  · rename_i hlexeme
    cases hlexeme
    rcases h with h | h
    · exact absurd rfl h
    · exact absurd rfl h.2.2
  · rfl

theorem readStatement_semicolon (rest : List Char) :
    readStatement [] (';' :: rest) = .ok ⟨[], .semicolon, rest⟩ := by
  have hnext : next true (';' :: rest) = .ok (some (.char ';', rest)) :=
    next_ordinary (by decide) rest
  exact readStatement_ending hnext rfl

theorem readStatement_block (rest : List Char) :
    readStatement [] ('{' :: rest) = .ok ⟨[], .block, rest⟩ := by
  have hnext : next true ('{' :: rest) = .ok (some (.char '{', rest)) :=
    next_ordinary (by decide) rest
  exact readStatement_ending hnext rfl

theorem nest_char {owed : List Char} {c : Char} (h : IsPlain c ∨ c = ';') :
    nest owed (.char c) = .ok owed := by
  have hc : ∀ d, d ∈ ['(', ')', '[', ']', '{', '}'] → c ≠ d := by
    rintro d hd rfl
    rcases h with h | rfl
    · have hplain : c ∉ ['"', '\'', '(', ')', '[', ']', '{', '}', ';'] := h
      simp only [List.mem_cons, List.not_mem_nil, or_false] at hd hplain
      grind
    · exact absurd hd (by decide)
  have hcloser : isCloser c = false := by
    simp [isCloser, hc ')' (by decide), hc ']' (by decide), hc '}' (by decide)]
  unfold nest
  split
  · rename_i hlexeme
    cases hlexeme
  · rename_i hlexeme
    cases hlexeme
    exact absurd rfl (hc '(' (by decide))
  · rename_i hlexeme
    cases hlexeme
    exact absurd rfl (hc '[' (by decide))
  · rename_i hlexeme
    cases hlexeme
    exact absurd rfl (hc '{' (by decide))
  · rename_i hlexeme
    cases hlexeme
    rw [hcloser]
    rfl
  · rfl

/-- In front of a brace that opens a group, a number sign and the brace are one lexeme; the
statement is read as if they were two. -/
theorem readStatement_hash {owed : List Char} (howed : owed ≠ []) (rest : List Char) :
    readStatement owed ('#' :: '{' :: rest) =
      (readStatement owed ('{' :: rest)).map (·.prepend ['#']) := by
  have hbrace : next (!owed.contains ')') ('{' :: rest) = .ok (some (.char '{', rest)) :=
    next_ordinary (by decide) rest
  have hend : endingAt owed .interpolation ('#' :: '{' :: rest) rest = none := by
    cases owed <;> rfl
  rw [readStatement_next (next_interpolation _ rest) hend rfl,
    readStatement_next hbrace (endingAt_char (.inl howed)) rfl, map_prepend_map]
  rfl

/-- A character that opens and closes nothing is read as it stands. Two slashes open a comment only
outside parentheses. -/
theorem readStatement_char {owed : List Char} {c : Char} {rest : List Char}
    (hplain : IsPlain c ∨ (owed ≠ [] ∧ c = ';'))
    (hslash : c = '/' → rest.head? ≠ some '*' ∧
      ((!owed.contains ')') = true → rest.head? ≠ some '/'))
    (hhash : owed ≠ [] ∨ rest.head? ≠ some '{') :
    readStatement owed (c :: rest) = (readStatement owed rest).map (·.prepend [c]) := by
  have hnone : IsPlain c ∨ c = ';' := hplain.imp_right And.right
  by_cases hinterpolation : c = '#' ∧ rest.head? = some '{'
  · obtain ⟨rfl, hhead⟩ := hinterpolation
    cases rest with
    | nil => cases hhead
    | cons d rest =>
      cases hhead
      exact readStatement_hash (hhash.resolve_right fun h => h rfl) rest
  · have hquote : isQuote c = false := by
      rw [isQuote_eq_false_iff]
      rcases hnone with hc | rfl
      · exact ⟨fun h => absurd hc (by rw [h]; decide), fun h => absurd hc (by rw [h]; decide)⟩
      · decide
    have hnext := next_eq_char hquote hslash fun hc hhead => hinterpolation ⟨hc, hhead⟩
    have hend : endingAt owed (.char c) (c :: rest) rest = none := by
      refine endingAt_char ?_
      rcases hplain with hc | ⟨howed, -⟩
      · exact .inr ⟨fun h => absurd hc (by rw [h]; decide),
          fun h => absurd hc (by rw [h]; decide), fun h => absurd hc (by rw [h]; decide)⟩
      · exact .inl howed
    exact readStatement_next hnext hend (nest_char hnone)

theorem readStatement_literal (owed : List Char) {quote : Char} (hquote : isQuote quote = true)
    {body : List Char} (hbody : LiteralBody false quote body) (rest : List Char) :
    readStatement owed (quote :: (body ++ quote :: rest)) =
      (readStatement owed rest).map (·.prepend (quote :: (body ++ [quote]))) := by
  have hend : endingAt owed (.quoted (quote :: (body ++ [quote])))
      (quote :: (body ++ quote :: rest)) rest = none := by
    cases owed <;> rfl
  exact readStatement_next (next_literal _ hquote hbody rest) hend rfl

theorem readStatement_open {owed opening : List Char} {inGroup : Bool} {closer : Char}
    (hopens : Opens inGroup opening closer) (howed : inGroup = true → owed ≠ [])
    (rest : List Char) : readStatement owed (opening ++ rest) =
      (readStatement (closer :: owed) rest).map (·.prepend opening) := by
  cases hopens with
  | parenthesis =>
    exact readStatement_next (next_ordinary (by decide) rest) (endingAt_char (.inr (by decide))) rfl
  | bracket =>
    exact readStatement_next (next_ordinary (by decide) rest) (endingAt_char (.inr (by decide))) rfl
  | interpolation =>
    have hend : endingAt owed .interpolation ('#' :: '{' :: rest) rest = none := by
      cases owed <;> rfl
    exact readStatement_next (next_interpolation _ rest) hend rfl
  | brace =>
    exact readStatement_next (next_ordinary (by decide) rest) (endingAt_char (.inl (howed rfl))) rfl

theorem readStatement_close {owed opening : List Char} {inGroup : Bool} {closer : Char}
    (hopens : Opens inGroup opening closer) (rest : List Char) :
    readStatement (closer :: owed) (closer :: rest) =
      (readStatement owed rest).map (·.prepend [closer]) := by
  have hnext : ∀ lineComments,
      next lineComments (closer :: rest) = .ok (some (.char closer, rest)) := by
    intro lineComments
    refine next_ordinary ?_ rest
    cases hopens <;> decide
  have hnest : nest (closer :: owed) (.char closer) = .ok owed := by
    cases hopens <;> simp [nest, isCloser]
  exact readStatement_next (hnext _) (endingAt_char (.inl (List.cons_ne_nil _ _))) hnest

/-! ## Balanced text -/

/-- Balanced text is read as it stands, and the closers owed after it are those owed before. -/
theorem readStatement_balanced {inGroup : Bool} {text : List Char} (h : Balanced inGroup text) :
    ∀ {owed rest : List Char}, (inGroup = true → owed ≠ []) → KeepsSlash rest →
      rest.head? ≠ some '{' →
      readStatement owed (text ++ rest) = (readStatement owed rest).map (·.prepend text) := by
  induction h with
  | nil =>
    intro owed rest _ _ _
    exact (map_prepend_nil _).symm
  | @char inGroup c text hplain hslash htext ih =>
    intro owed rest howed hkeeps hbrace
    have hhash : owed ≠ [] ∨ (text ++ rest).head? ≠ some '{' := by
      cases inGroup with
      | true => exact .inl (howed rfl)
      | false =>
        right
        have hhead := htext.head?_ne
        cases text with
        | nil => exact hbrace
        | cons d text => exact hhead
    have hplain' : IsPlain c ∨ (owed ≠ [] ∧ c = ';') :=
      hplain.imp_right fun h => ⟨howed h.1, h.2⟩
    rw [List.cons_append, readStatement_char hplain'
      (fun hc => ((hslash hc).append hkeeps).opens_no_comment _) hhash,
      ih howed hkeeps hbrace, map_prepend_map]
    rfl
  | @literal inGroup quote body text hquote hbody _ ih =>
    intro owed rest howed hkeeps hbrace
    rw [List.cons_append, List.append_assoc, List.cons_append,
      readStatement_literal owed hquote hbody, ih howed hkeeps hbrace, map_prepend_map]
    simp
  | @group inGroup opening inner text closer hopens _ _ ihInner ih =>
    intro owed rest howed hkeeps hbrace
    have hcloser : KeepsSlash (closer :: (text ++ rest)) ∧
        (closer :: (text ++ rest)).head? ≠ some '{' := by
      cases hopens <;> exact ⟨.cons (by decide) _, by simp⟩
    rw [List.append_assoc, List.append_assoc, List.cons_append,
      readStatement_open hopens howed,
      ihInner (fun _ => List.cons_ne_nil _ _) hcloser.1 hcloser.2,
      readStatement_close hopens, ih howed hkeeps hbrace, map_prepend_map, map_prepend_map,
      map_prepend_map]
    simp

end Braced

end StyleConstants.Stylesheet
