import StyleConstants.Proofs.Outcome
import StyleConstants.Proofs.Stylesheet.ReadBack

/-!
# Text that goes on

A lexeme, a statement and a block are read the same when a line break and more text follow. Only
what ran to the end of the text is read on: a statement without its semicolon takes what comes up
to the next one. A semicolon on a line of its own after the break is that next one, so that nothing
of the text behind it is taken.

* `next_append`, `skipBlock_append`, `skipFiller_append`: nothing that was read changes.
* `readStatement_append`: a statement that has ended stays as it is, any other is read on.
* `nodesFrom_append`: the nodes of a text come before those of the text behind it.
-/

namespace StyleConstants.Stylesheet

open Text (isBlank newlines)

/-! ## Lexemes -/

namespace Lexeme

theorem ne_escape {c : Char} {rest : List Char} (hlast : c = '\\' → rest = [] → False)
    (hpair : ∀ d rest', c = '\\' → rest = d :: rest' → False) : c ≠ '\\' := by
  intro hc
  cases rest with
  | nil => exact hlast hc rfl
  | cons d rest => exact hpair d rest hc rfl

theorem closeQuote_append {quote : Char} {text read after : List Char}
    (h : closeQuote quote text = .ok (read, after)) (more : List Char) :
    closeQuote quote (text ++ more) = .ok (read, after ++ more) := by
  fun_induction closeQuote quote text generalizing read with
  | case1 => cases h
  | case2 => cases h
  | case3 => cases h
  | case4 c rest ih =>
    obtain ⟨⟨read', after'⟩, hrest, hpair⟩ := exists_of_map_eq_ok h
    cases hpair
    rw [List.cons_append, List.cons_append, closeQuote, ih hrest]
    rfl
  | case5 rest hbreak hescape hpair =>
    cases h
    have hplain : quote ≠ '\\' := ne_escape hescape hpair
    rw [List.cons_append, closeQuote, if_pos rfl]
    · exact hbreak
    · exact fun hc _ => hplain hc
    · exact fun _ _ hc _ => hplain hc
  | case6 c rest hbreak hescape hpair hc ih =>
    obtain ⟨⟨read', after'⟩, hrest, hcons⟩ := exists_of_map_eq_ok h
    cases hcons
    have hplain : c ≠ '\\' := ne_escape hescape hpair
    rw [List.cons_append, closeQuote, if_neg hc, ih hrest]
    · rfl
    · exact hbreak
    · exact fun hc _ => hplain hc
    · exact fun _ _ hc _ => hplain hc

theorem closeComment_append {text after : List Char} (h : closeComment text = some after)
    (more : List Char) : closeComment (text ++ more) = some (after ++ more) := by
  fun_induction closeComment text with
  | case1 => cases h
  | case2 rest =>
    cases h
    rw [List.cons_append, List.cons_append, closeComment]
  | case3 c rest hend ih =>
    rw [List.cons_append, closeComment, ih h]
    intro rest' hc hrest
    cases rest with
    | nil => cases h
    | cons d rest =>
      cases hrest
      exact hend rest hc rfl

theorem afterLine_append (text more : List Char) :
    afterLine (text ++ '\n' :: more) = afterLine text ++ '\n' :: more := by
  induction text with
  | nil => rfl
  | cons c text ih =>
    rw [afterLine, afterLine, List.cons_append, List.dropWhile_cons, List.dropWhile_cons]
    split
    · exact ih
    · rfl

theorem eq_nil_of_next {lineComments : Bool} {text : List Char}
    (h : next lineComments text = .ok none) : text = [] := by
  unfold next at h
  split at h
  · rfl
  · split at h <;> cases h
  · split at h <;> cases h
  · cases h
  · split at h
    · split at h <;> cases h
    · cases h

/-- A lexeme stays what it is when a character follows that continues none. A line comment takes all
but a line break. -/
theorem next_append {lineComments : Bool} {text rest : List Char} {lexeme : Lexeme} {c : Char}
    (h : next lineComments text = .ok (some (lexeme, rest))) (hc : c ≠ '/' ∧ c ≠ '*' ∧ c ≠ '{')
    (hline : lexeme = .lineComment → c = '\n') (more : List Char) :
    next lineComments (text ++ c :: more) = .ok (some (lexeme, rest ++ c :: more)) := by
  unfold next at h
  split at h
  · cases h
  · split at h
    · cases h
    · rename_i hclose
      cases h
      rw [List.cons_append, List.cons_append, next, closeComment_append hclose]
  · rw [List.cons_append, List.cons_append, next, ← List.cons_append]
    split at h
    · rename_i hcomments
      cases h
      obtain rfl := hline rfl
      rw [if_pos hcomments, afterLine_append]
    · rename_i hcomments
      cases h
      rw [if_neg hcomments, List.cons_append]
  · cases h
    rw [List.cons_append, List.cons_append, next]
  · rename_i d rest' hblock hslashes hopen
    -- the next character, if it matters, is one of the text
    have hhead : ∀ {e tail}, c ≠ e → rest' ++ c :: more = e :: tail →
        ∃ tail', rest' = e :: tail' := by
      intro e tail he heq
      cases rest' with
      | nil =>
        cases heq
        exact absurd rfl he
      | cons e' rest' =>
        cases heq
        exact ⟨rest', rfl⟩
    rw [List.cons_append, next]
    · split at h
      · rename_i hquote
        split at h
        · cases h
        · rename_i hclose
          cases h
          rw [if_pos hquote, closeQuote_append hclose]
      · rename_i hquote
        cases h
        rw [if_neg hquote]
    · intro tail hd heq
      obtain ⟨tail', hrest⟩ := hhead hc.2.1 heq
      exact hblock tail' hd hrest
    · intro tail hd heq
      obtain ⟨tail', hrest⟩ := hhead hc.1 heq
      exact hslashes tail' hd hrest
    · intro tail hd heq
      obtain ⟨tail', hrest⟩ := hhead hc.2.2 heq
      exact hopen tail' hd hrest

theorem next_append_break {lineComments : Bool} {text rest : List Char} {lexeme : Lexeme}
    (h : next lineComments text = .ok (some (lexeme, rest))) (more : List Char) :
    next lineComments (text ++ '\n' :: more) = .ok (some (lexeme, rest ++ '\n' :: more)) :=
  next_append h (by decide) (fun _ => rfl) more

end Lexeme

/-! ## Statements and blocks -/

namespace Braced

open Lexeme

/-- The reading of a text that goes on. -/
def Reading.extend (reading : Reading) (more : List Char) : Reading :=
  { reading with rest := reading.rest ++ more }

theorem endingAt_append (owed : List Char) (lexeme : Lexeme) (here rest more : List Char) :
    endingAt owed lexeme (here ++ more) (rest ++ more) =
      (endingAt owed lexeme here rest).map (·.extend more) := by
  unfold endingAt
  split <;> rfl

theorem endingAt_ne_endOfText {owed here rest : List Char} {lexeme : Lexeme} {reading : Reading}
    (h : endingAt owed lexeme here rest = some reading) : reading.ending ≠ .endOfText := by
  unfold endingAt at h
  split at h <;> cases h <;> simp

/-- A statement that has ended is not changed by what follows. -/
theorem readStatement_append {owed text : List Char} {reading : Reading}
    (h : readStatement owed text = .ok reading) (hending : reading.ending ≠ .endOfText)
    (more : List Char) :
    readStatement owed (text ++ '\n' :: more) = .ok (reading.extend ('\n' :: more)) := by
  fun_induction readStatement owed text generalizing reading with
  | case1 => cases h
  | case2 =>
    cases h
    exact absurd rfl hending
  | case3 => cases h
  | case4 owed text lexeme rest hnext found hend =>
    cases h
    rw [readStatement_of_next (next_append_break hnext more), endingAt_append, hend]
    rfl
  | case5 => cases h
  | case6 owed text lexeme rest hnext hend owed' hnest ih =>
    obtain ⟨reading', hrest, rfl⟩ := exists_of_map_eq_ok h
    rw [readStatement_of_next (next_append_break hnext more), endingAt_append, hend,
      Option.map_none]
    dsimp only
    rw [hnest]
    dsimp only
    rw [ih hrest hending]
    rfl

/-- A statement that ran to the end of the text is read on in what follows. -/
theorem readStatement_append_of_endOfText {owed text : List Char} {reading : Reading}
    (h : readStatement owed text = .ok reading) (hending : reading.ending = .endOfText)
    (more : List Char) :
    reading.rest = [] ∧ readStatement owed (text ++ '\n' :: more) =
      (readStatement [] ('\n' :: more)).map (·.prepend reading.text) := by
  fun_induction readStatement owed text generalizing reading with
  | case1 => cases h
  | case2 text hnext =>
    cases h
    obtain rfl := eq_nil_of_next hnext
    exact ⟨rfl, (map_prepend_nil _).symm⟩
  | case3 => cases h
  | case4 owed text lexeme rest hnext found hend =>
    cases h
    exact absurd hending (endingAt_ne_endOfText hend)
  | case5 => cases h
  | case6 owed text lexeme rest hnext hend owed' hnest ih =>
    obtain ⟨reading', hrest, rfl⟩ := exists_of_map_eq_ok h
    obtain ⟨hnil, hread⟩ := ih hrest hending
    refine ⟨hnil, ?_⟩
    rw [readStatement_of_next (next_append_break hnext more), endingAt_append, hend,
      Option.map_none]
    dsimp only
    rw [hnest]
    dsimp only
    rw [hread, map_prepend_map]
    rfl

theorem skipBlock_append {entry text rest : List Char} {depth : Depth}
    (h : skipBlock entry depth text = .ok rest) (other more : List Char) :
    skipBlock other depth (text ++ '\n' :: more) = .ok (rest ++ '\n' :: more) := by
  fun_induction skipBlock entry depth text with
  | case1 => cases h
  | case2 => cases h
  | case3 depth text lexeme after hnext hend =>
    cases h
    exact skipBlock_end (next_append_break hnext more) hend
  | case4 depth text lexeme after hnext depth' hafter ih =>
    rw [skipBlock_next (next_append_break hnext more) hafter, ih h]

/-- Filler goes on in what follows if nothing stands behind it. -/
theorem skipFiller_append {text rest : List Char} (h : skipFiller text = .ok rest)
    (more : List Char) :
    skipFiller (text ++ '\n' :: more) =
      if rest = [] then skipFiller more else .ok (rest ++ '\n' :: more) := by
  fun_induction skipFiller text with
  | case1 =>
    cases h
    exact skipFiller_skip (.inl (by decide)) more
  | case2 c tail hskip ih =>
    rw [List.cons_append, skipFiller_cons, if_pos hskip, ih h]
  | case3 c tail hskip hline ih =>
    obtain ⟨rfl, hhead⟩ := hline
    obtain ⟨tail', rfl⟩ := List.head?_eq_some_iff.1 hhead
    have hafter := ih h
    rw [← afterLine_append] at hafter
    rw [List.cons_append, List.cons_append, skipFiller_lineComment]
    exact hafter
  | case4 => cases h
  | case5 c tail hskip hline hblock after hafter ih =>
    obtain ⟨rfl, hhead⟩ := hblock
    obtain ⟨tail', rfl⟩ := List.head?_eq_some_iff.1 hhead
    have hclose : closeComment (tail' ++ '\n' :: more) = some (after ++ '\n' :: more) :=
      closeComment_append hafter _
    rw [List.cons_append, List.cons_append, skipFiller_blockComment hclose, ih h]
  | case6 c tail hskip hline hblock =>
    cases h
    have hhead : ∀ {d}, d ≠ '\n' → (tail ++ '\n' :: more).head? = some d → tail.head? = some d := by
      intro d hd hhead
      cases tail with
      | nil =>
        cases hhead
        exact absurd rfl hd
      | cons e tail => exact hhead
    have hline' : ¬ (c = '/' ∧ (tail ++ '\n' :: more).head? = some '/') :=
      fun hc => hline ⟨hc.1, hhead (by decide) hc.2⟩
    have hblock' : ¬ (c = '/' ∧ (tail ++ '\n' :: more).head? = some '*') :=
      fun hc => hblock ⟨hc.1, hhead (by decide) hc.2⟩
    rw [List.cons_append, skipFiller_cons, if_neg hskip, if_neg hline', if_neg hblock',
      if_neg (List.cons_ne_nil c tail)]

/-! ## Items and nodes -/

/-- One step of the reader. -/
theorem nodesFrom_eq (source text : List Char) :
    nodesFrom source text =
      match skipFiller text with
      | .error fault => .error (fault.locate source)
      | .ok [] => .ok []
      | .ok (c :: tail) =>
        if c = '}' then .error (Fault.locate source ⟨.strayCloser '}', c :: tail⟩)
        else
          match readItem (c :: tail) with
          | .error fault => .error (fault.locate source)
          | .ok chunk =>
            match Item.read (Text.trim chunk.text) chunk.hasBlock with
            | .error cause => .error (Fault.locate source ⟨cause, c :: tail⟩)
            | .ok none => nodesFrom source chunk.rest
            | .ok (some item) =>
              (nodesFrom source chunk.rest).map (⟨Text.lineOf source (c :: tail), item⟩ :: ·) := by
  rw [nodesFrom]
  split
  · rename_i h
    rw [h]
  · rename_i h
    rw [h]
  · rename_i h
    rw [h]
    dsimp only
    split
    · rfl
    · split
      · rename_i hitem
        rw [hitem]
      · rename_i hitem
        rewrite [hitem]
        rfl

/-- A semicolon on a line of its own, and more text. -/
def behindSemicolon (more : List Char) : List Char := '\n' :: ';' :: '\n' :: more

theorem skipFiller_behindSemicolon (more : List Char) :
    skipFiller (behindSemicolon more) = skipFiller more := by
  rw [behindSemicolon, skipFiller_skip (.inl (by decide)), skipFiller_skip (.inr rfl),
    skipFiller_skip (.inl (by decide))]

theorem nodesFrom_congr {source a b : List Char} (h : skipFiller a = skipFiller b) :
    nodesFrom source a = nodesFrom source b := by
  rw [nodesFrom_eq, h, ← nodesFrom_eq]

theorem readItem_of_block {text : List Char} {reading : Reading}
    (h : readStatement [] text = .ok reading) (hblock : reading.ending = .block) :
    readItem text =
      (skipBlock reading.rest ⟨0, 0⟩ reading.rest).map fun rest => ⟨reading.text, true, rest⟩ := by
  rw [readItem, h]
  exact if_pos hblock

theorem readItem_of_no_block {text : List Char} {reading : Reading}
    (h : readStatement [] text = .ok reading) (hblock : reading.ending ≠ .block) :
    readItem text = .ok ⟨reading.text, false, reading.rest⟩ := by
  rw [readItem, h]
  exact if_neg hblock

theorem readStatement_behindSemicolon (more : List Char) :
    readStatement [] (behindSemicolon more) = .ok ⟨['\n'], .semicolon, '\n' :: more⟩ := by
  have hplain : Text.IsPlain '\n' ∨ (([] : List Char) ≠ [] ∧ '\n' = ';') := .inl (by decide)
  rw [behindSemicolon, readStatement_char hplain (fun hc => absurd hc (by decide))
    (.inr (by simp)), readStatement_semicolon]
  rfl

/-- A statement with its block is read the same; if it ran to the end of the text, it takes the line
break and the semicolon. -/
theorem readItem_append {text : List Char} {chunk : Chunk} (h : readItem text = .ok chunk)
    (more : List Char) : ∃ blanks rest, (∀ c ∈ blanks, isBlank c = true) ∧
      readItem (text ++ behindSemicolon more) = .ok ⟨chunk.text ++ blanks, chunk.hasBlock, rest⟩ ∧
      skipFiller rest = skipFiller (chunk.rest ++ behindSemicolon more) := by
  have hnone : ∀ c ∈ ([] : List Char), isBlank c = true := fun _ hc => nomatch hc
  cases hreading : readStatement [] text with
  | error fault =>
    rw [readItem, hreading] at h
    cases h
  | ok reading =>
    by_cases hending : reading.ending = .endOfText
    · have hblock : reading.ending ≠ .block := by rw [hending]; simp
      obtain ⟨hrest, hread⟩ :=
        readStatement_append_of_endOfText hreading hending (';' :: '\n' :: more)
      have hread' : readStatement [] (text ++ behindSemicolon more) =
          .ok ⟨reading.text ++ ['\n'], .semicolon, '\n' :: more⟩ :=
        hread.trans (congrArg _ (readStatement_behindSemicolon more))
      rw [readItem_of_no_block hreading hblock] at h
      cases h
      refine ⟨['\n'], '\n' :: more, ?_, readItem_of_no_block hread' (by simp), ?_⟩
      · intro c hc
        obtain rfl := List.mem_singleton.1 hc
        decide
      · rw [hrest, List.nil_append, skipFiller_behindSemicolon, skipFiller_skip (.inl (by decide))]
    · have hread : readStatement [] (text ++ behindSemicolon more) =
          .ok (reading.extend (behindSemicolon more)) :=
        readStatement_append hreading hending (';' :: '\n' :: more)
      by_cases hblock : reading.ending = .block
      · rw [readItem_of_block hreading hblock] at h
        obtain ⟨rest, hskip, rfl⟩ := exists_of_map_eq_ok h
        have hskip' : skipBlock (reading.rest ++ behindSemicolon more) ⟨0, 0⟩
            (reading.rest ++ behindSemicolon more) = .ok (rest ++ behindSemicolon more) :=
          skipBlock_append hskip _ _
        refine ⟨[], rest ++ behindSemicolon more, hnone, ?_, rfl⟩
        rw [List.append_nil, readItem_of_block hread hblock]
        exact congrArg _ hskip'
      · rw [readItem_of_no_block hreading hblock] at h
        cases h
        refine ⟨[], reading.rest ++ behindSemicolon more, hnone, ?_, rfl⟩
        rw [List.append_nil]
        exact readItem_of_no_block hread hblock

/-- The number of a line does not depend on the text behind it. -/
theorem lineOf_append_right (source text more : List Char) :
    Text.lineOf (source ++ more) (text ++ more) = Text.lineOf source text := by
  rw [Text.lineOf, Text.lineOf, Text.newlines_append, Text.newlines_append, Nat.add_sub_add_right]

theorem skipFiller_start_append {text tail : List Char} {c : Char}
    (h : skipFiller text = .ok (c :: tail)) (more : List Char) :
    skipFiller (text ++ behindSemicolon more) = .ok (c :: tail ++ behindSemicolon more) := by
  rw [behindSemicolon, skipFiller_append h, if_neg (List.cons_ne_nil c tail)]

/-- The nodes of a text come before those of the text behind it. -/
theorem nodesFrom_append {source text : List Char} {nodes : List Node}
    (h : nodesFrom source text = .ok nodes) (more : List Char) :
    nodesFrom (source ++ behindSemicolon more) (text ++ behindSemicolon more) =
      (nodesFrom (source ++ behindSemicolon more) more).map (nodes ++ ·) := by
  fun_induction nodesFrom source text generalizing nodes with
  | case1 => cases h
  | case2 text hfiller =>
    cases h
    have hfiller' : skipFiller (text ++ behindSemicolon more) = skipFiller more := by
      rw [behindSemicolon, skipFiller_append hfiller, if_pos rfl, skipFiller_skip (.inr rfl),
        skipFiller_skip (.inl (by decide))]
    rw [nodesFrom_congr hfiller']
    exact (map_append_nil _).symm
  | case3 => cases h
  | case4 => cases h
  | case5 => cases h
  | case6 text c tail hfiller hc chunk hitem hread ih =>
    obtain ⟨blanks, rest, hblanks, hitem', hrest⟩ := readItem_append hitem more
    rw [nodesFrom_eq, skipFiller_start_append hfiller, List.cons_append]
    dsimp only
    rw [if_neg hc, ← List.cons_append, hitem']
    dsimp only
    rw [Text.trim_append_blanks _ hblanks, hread]
    dsimp only
    rw [nodesFrom_congr hrest, ih h]
  | case7 text c tail hfiller hc chunk hitem item hread ih =>
    obtain ⟨blanks, rest, hblanks, hitem', hrest⟩ := readItem_append hitem more
    obtain ⟨others, hothers, rfl⟩ := exists_of_map_eq_ok h
    rw [nodesFrom_eq, skipFiller_start_append hfiller, List.cons_append]
    dsimp only
    rw [if_neg hc, ← List.cons_append, hitem']
    dsimp only
    rw [Text.trim_append_blanks _ hblanks, hread]
    dsimp only
    rw [nodesFrom_congr hrest, ih hothers, lineOf_append_right]
    cases nodesFrom (source ++ behindSemicolon more) more <;> rfl

end Braced
end StyleConstants.Stylesheet
