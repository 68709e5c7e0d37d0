import StyleConstants.Proofs.Stylesheet.Shifted
import StyleConstants.Proofs.Text.Lines

/-!
# The indented dialect line by line

A statement of the indented dialect takes whole lines, and its block the indented lines beneath. So
lines behind a sheet that has been read can only become part of its last block, which they do not
if the first of them that is not blank is not indented.

* `nodesOfLines_cons`: one step of the reader.
* `nodesOfLines_shift`: lines in front of a sheet only move its nodes.
* `nodesOfLines_continues`: the nodes of a sheet come before those of the lines behind it.
-/

namespace StyleConstants.Stylesheet.Indented

open Lexeme
open Text (Continues isBlank)

/-- The first line that is not blank, if there is one, is not indented. -/
def Unindented (lines : List (List Char)) : Prop :=
  ∀ line ∈ lines.find? (!isBlankLine ·), isIndented line = false

/-- One step of the reader. -/
theorem nodesOfLines_cons (total : Nat) (line : List Char) (rest : List (List Char)) :
    nodesOfLines total (line :: rest) =
      if isBlankLine line then nodesOfLines total rest
      else if isIndented line then .error ⟨total - rest.length, .leadingIndent⟩
      else if startsComment line then nodesOfLines total (rest.dropWhile isNested)
      else
        match joinLines total [] (line :: rest) with
        | .error rejection => .error rejection
        | .ok (joined, after) =>
          let text := Text.trim joined
          let hasBlock := (after.takeWhile isNested).any (!isBlankLine ·)
          if text.getLast? = some ';' then .error ⟨total - rest.length, .semicolon⟩
          else
            match Item.read text hasBlock with
            | .error cause => .error ⟨total - rest.length, cause⟩
            | .ok none => nodesOfLines total (after.dropWhile isNested)
            | .ok (some item) =>
              (nodesOfLines total (after.dropWhile isNested)).map
                (⟨total - rest.length, item⟩ :: ·) := by
  rw [nodesOfLines]
  split
  · rfl
  · split
    · rfl
    · split
      · rfl
      · split
        · rename_i hjoin
          rw [hjoin]
        · rename_i hjoin
          rewrite [hjoin]
          rfl

section Join

variable {total : Nat} {owed owed' line text : List Char} {rest : List (List Char)}

theorem joinLines_fault {cause : Cause} (h : stripLine owed line = .error cause) :
    joinLines total owed (line :: rest) = .error ⟨total - rest.length, cause⟩ := by
  rw [joinLines, h]

theorem joinLines_last (h : stripLine owed line = .ok (text, [])) :
    joinLines total owed (line :: rest) = .ok (text ++ [' '], rest) := by
  rw [joinLines, h]

theorem joinLines_open (h : stripLine owed line = .ok (text, owed')) (howed : owed' ≠ []) :
    joinLines total owed (line :: rest) =
      (joinLines total owed' rest).map fun (more, after) => (text ++ ' ' :: more, after) := by
  rw [joinLines, h]
  cases owed' with
  | nil => exact absurd rfl howed
  | cons closer owed' => rfl

end Join

/-! ## Lines in front -/

theorem length_dropWhile_isNested_le (lines : List (List Char)) :
    (lines.dropWhile isNested).length ≤ lines.length :=
  (List.dropWhile_suffix isNested).length_le

/-- What a place is called that many lines further down. -/
theorem line_shift {total : Nat} {rest : List (List Char)} (h : rest.length ≤ total)
    (front : Nat) : front + total - rest.length = front + (total - rest.length) :=
  Nat.add_sub_assoc h front

theorem joinLines_shift {total : Nat} {owed : List Char} {lines : List (List Char)}
    (h : lines.length ≤ total) (front : Nat) :
    joinLines (front + total) owed lines =
      match joinLines total owed lines with
      | .error rejection => .error (rejection.shift front)
      | .ok joined => .ok joined := by
  induction lines generalizing owed with
  | nil => rfl
  | cons line rest ih =>
    have hrest : rest.length ≤ total := Nat.le_of_succ_le h
    cases hstrip : stripLine owed line with
    | error cause =>
      rw [joinLines_fault hstrip, joinLines_fault hstrip, line_shift hrest]
      rfl
    | ok stripped =>
      obtain ⟨text, owed'⟩ := stripped
      by_cases howed : owed' = []
      · rw [howed] at hstrip
        rw [joinLines_last hstrip, joinLines_last hstrip]
      · rw [joinLines_open hstrip howed, joinLines_open hstrip howed, ih hrest]
        cases joinLines total owed' rest <;> rfl

/-- Lines in front of a sheet move its nodes, or its rejection, down by their number. -/
theorem nodesOfLines_shift {total : Nat} {lines : List (List Char)} (h : lines.length ≤ total)
    (front : Nat) :
    nodesOfLines (front + total) lines = shift front (nodesOfLines total lines) := by
  fun_induction nodesOfLines total lines with
  | case1 => rw [nodesOfLines]; rfl
  | case2 line rest hblank ih =>
    rw [nodesOfLines_cons, if_pos hblank]
    exact ih (Nat.le_of_succ_le h)
  | case3 line rest hblank hindent =>
    rw [nodesOfLines_cons, if_neg hblank, if_pos hindent, line_shift (Nat.le_of_succ_le h)]
    rfl
  | case4 line rest hblank hindent hcomment ih =>
    have hrest := length_dropWhile_isNested_le rest
    rw [nodesOfLines_cons, if_neg hblank, if_neg hindent, if_pos hcomment]
    exact ih (Nat.le_trans hrest (Nat.le_of_succ_le h))
  | case5 line rest hblank hindent hcomment rejection hjoin =>
    rw [nodesOfLines_cons, if_neg hblank, if_neg hindent, if_neg hcomment, joinLines_shift h, hjoin]
    rfl
  | case6 line rest hblank hindent hcomment joined after hjoin text hsemicolon =>
    rw [nodesOfLines_cons, if_neg hblank, if_neg hindent, if_neg hcomment, joinLines_shift h, hjoin]
    dsimp only
    rw [if_pos hsemicolon, line_shift (Nat.le_of_succ_le h)]
    rfl
  | case7 line rest hblank hindent hcomment joined after hjoin text hasBlock hsemicolon cause
      hread =>
    rw [nodesOfLines_cons, if_neg hblank, if_neg hindent, if_neg hcomment, joinLines_shift h, hjoin]
    dsimp only
    rw [if_neg hsemicolon, hread, line_shift (Nat.le_of_succ_le h)]
    rfl
  | case8 line rest hblank hindent hcomment joined after hjoin text hasBlock hsemicolon hread ih =>
    have hafter : (after.dropWhile isNested).length ≤ total := by
      have hblock := length_dropWhile_isNested_le after
      have hstatement := joinLines_lt hjoin
      omega
    rw [nodesOfLines_cons, if_neg hblank, if_neg hindent, if_neg hcomment, joinLines_shift h, hjoin]
    dsimp only
    rw [if_neg hsemicolon, hread]
    exact ih hafter
  | case9 line rest hblank hindent hcomment joined after hjoin text hasBlock hsemicolon item hread
      ih =>
    have hafter : (after.dropWhile isNested).length ≤ total := by
      have hblock := length_dropWhile_isNested_le after
      have hstatement := joinLines_lt hjoin
      omega
    rw [nodesOfLines_cons, if_neg hblank, if_neg hindent, if_neg hcomment, joinLines_shift h, hjoin]
    dsimp only
    rw [if_neg hsemicolon, hread]
    dsimp only
    rw [ih hafter, shift_map_cons,
      line_shift (Nat.le_of_succ_le h)]
    rfl

/-! ## Lines behind -/

theorem isBlankLine_return (line : List Char) :
    isBlankLine (line ++ ['\r']) = isBlankLine line := by
  have hreturn : isBlank '\r' = true := by decide
  simp [isBlankLine, hreturn]

theorem isIndented_return (line : List Char) : isIndented (line ++ ['\r']) = isIndented line := by
  cases line with
  | nil => decide
  | cons c line => rfl

theorem startsComment_return (line : List Char) :
    startsComment (line ++ ['\r']) = startsComment line := by
  have hblank : Text.trimStart ['\r'] = [] := by decide
  have hstart : Text.trimStart (line ++ ['\r']) =
      if (Text.trimStart line).isEmpty then [] else Text.trimStart line ++ ['\r'] := by
    rw [Text.trimStart, List.dropWhile_append, ← Text.trimStart, ← Text.trimStart, hblank]
  rw [startsComment, startsComment, hstart]
  rcases Text.trimStart line with _ | ⟨c, _ | ⟨d, text⟩⟩
  · rfl
  · simp [List.isPrefixOf]
  · simp [List.isPrefixOf]

theorem closeQuote_return {quote : Char} (hquote : isQuote quote = true) {text place : List Char}
    (h : closeQuote quote text = .error place) :
    ∃ place', closeQuote quote (text ++ ['\r']) = .error place' := by
  fun_induction closeQuote quote text with
  | case1 =>
    have hne : '\r' ≠ quote := by
      rintro rfl
      exact absurd hquote (by decide)
    exact ⟨[], by simp [closeQuote, hne, Except.map]⟩
  | case2 rest => exact ⟨_, by rw [List.cons_append, closeQuote]⟩
  | case3 => exact ⟨[], by simp [closeQuote, Except.map]⟩
  | case4 c rest ih =>
    obtain ⟨place', hplace⟩ := ih (exists_of_map_eq_error h)
    exact ⟨place', by rw [List.cons_append, List.cons_append, closeQuote, hplace]; rfl⟩
  | case5 => cases h
  | case6 c rest hbreak hescape hpair hc ih =>
    obtain ⟨place', hplace⟩ := ih (exists_of_map_eq_error h)
    have hplain : c ≠ '\\' := ne_escape hescape hpair
    refine ⟨place', ?_⟩
    rw [List.cons_append, closeQuote, if_neg hc, hplace]
    · rfl
    · exact hbreak
    · exact fun hc _ => hplain hc
    · exact fun _ _ hc _ => hplain hc

theorem closeComment_return {text : List Char} (h : closeComment text = none) :
    closeComment (text ++ ['\r']) = none := by
  fun_induction closeComment text with
  | case1 => simp [closeComment]
  | case2 => cases h
  | case3 c rest hend ih =>
    rw [List.cons_append, closeComment, ih h]
    intro rest' hc hrest
    cases rest with
    | nil => cases hrest
    | cons d rest =>
      cases hrest
      exact hend rest hc rfl

theorem next_fault_return {lineComments : Bool} {text : List Char} {fault : Fault}
    (h : next lineComments text = .error fault) :
    ∃ place, next lineComments (text ++ ['\r']) = .error ⟨fault.cause, place⟩ := by
  unfold next at h
  split at h
  · cases h
  · split at h
    · rename_i rest _ hclose
      cases h
      refine ⟨'/' :: '*' :: (rest ++ ['\r']), ?_⟩
      rw [List.cons_append, List.cons_append, next, closeComment_return hclose]
    · cases h
  · split at h <;> cases h
  · cases h
  · rename_i c rest hblock hslashes hopen
    split at h
    · rename_i hquote
      split at h
      · rename_i hclose
        cases h
        obtain ⟨place', hplace⟩ := closeQuote_return hquote hclose
        have hplain : c ≠ '/' ∧ c ≠ '#' := by
          rcases isQuote_iff.1 hquote with rfl | rfl <;> decide
        refine ⟨place', ?_⟩
        rw [List.cons_append, next, if_pos hquote, hplace]
        · exact fun _ hc => absurd hc hplain.1
        · exact fun _ hc => absurd hc hplain.1
        · exact fun _ hc => absurd hc hplain.2
      · cases h
    · cases h

theorem next_lineComment_append {lineComments : Bool} {text rest : List Char}
    (h : next lineComments text = .ok (some (.lineComment, rest))) (more : List Char) :
    ∃ rest', next lineComments (text ++ more) = .ok (some (.lineComment, rest')) := by
  unfold next at h
  split at h
  · cases h
  · split at h <;> cases h
  · split at h
    · rename_i hcomments
      exact ⟨_, by rw [List.cons_append, List.cons_append, next, if_pos hcomments]⟩
    · cases h
  · cases h
  · split at h
    · split at h <;> cases h
    · cases h

/-- One step along a line. -/
theorem stripLine_eq (owed line : List Char) :
    stripLine owed line =
      match next (!owed.contains ')') line with
      | .error fault =>
        if fault.cause = .openComment then .ok ([], owed) else .error fault.cause
      | .ok none => .ok ([], owed)
      | .ok (some (lexeme, rest)) =>
        if lexeme = .lineComment then .ok ([], owed)
        else
          match lexeme.nest owed with
          | .error cause => .error cause
          | .ok owed =>
            (stripLine owed rest).map fun (text, owed) => (lexeme.rendered ++ text, owed) := by
  rw [stripLine]
  split
  · rename_i h
    rw [h]
    exact (if_pos rfl).symm
  · rename_i hcause h
    rw [h]
    exact (if_neg hcause).symm
  · rename_i h
    rw [h]
  · rename_i h
    rw [h]
    exact (if_pos rfl).symm
  · rename_i hlexeme h
    rw [h]
    dsimp only
    rewrite [if_neg hlexeme]
    rfl

theorem stripLine_nil (owed : List Char) : stripLine owed [] = .ok ([], owed) := by
  rw [stripLine_eq, next]

/-- A carriage return at the end of a line is left at the end of its text, or in a comment. -/
theorem stripLine_return {owed owed' line text : List Char}
    (h : stripLine owed (line ++ ['\r']) = .ok (text, owed')) :
    ∃ text', stripLine owed line = .ok (text', owed') ∧
      (text = text' ∨ text = text' ++ ['\r']) := by
  have hreturn : '\r' ≠ '/' ∧ '\r' ≠ '*' ∧ '\r' ≠ '{' := by decide
  fun_induction stripLine owed line generalizing text with
  | case1 owed line place hnext =>
    obtain ⟨place', hnext'⟩ := next_fault_return hnext
    rw [stripLine_eq, hnext'] at h
    cases h
    exact ⟨[], rfl, .inl rfl⟩
  | case2 owed line cause place hcause hnext =>
    obtain ⟨place', hnext'⟩ := next_fault_return hnext
    rw [stripLine_eq, hnext'] at h
    dsimp only at h
    rw [if_neg hcause] at h
    cases h
  | case3 owed line hnext =>
    obtain rfl := eq_nil_of_next hnext
    have hnext' : next (!owed.contains ')') ['\r'] = .ok (some (.char '\r', [])) :=
      next_ordinary (by decide) []
    rw [List.nil_append, stripLine_eq, hnext'] at h
    dsimp only at h
    rw [if_neg (by simp), Braced.nest_char (.inl (by decide))] at h
    dsimp only at h
    rw [stripLine_nil] at h
    cases h
    exact ⟨[], rfl, .inr rfl⟩
  | case4 owed line rest hnext =>
    obtain ⟨rest', hnext'⟩ := next_lineComment_append hnext ['\r']
    rw [stripLine_eq, hnext'] at h
    dsimp only at h
    rw [if_pos rfl] at h
    cases h
    exact ⟨[], rfl, .inl rfl⟩
  | case5 owed line lexeme rest hlexeme hnext cause hnest =>
    have hnext' := next_append hnext hreturn (fun hline => absurd hline hlexeme) []
    rw [stripLine_eq, hnext'] at h
    dsimp only at h
    rw [if_neg hlexeme, hnest] at h
    cases h
  | case6 owed line lexeme rest hlexeme hnext owed1 hnest ih =>
    have hnext' := next_append hnext hreturn (fun hline => absurd hline hlexeme) []
    rw [stripLine_eq, hnext'] at h
    dsimp only at h
    rw [if_neg hlexeme, hnest] at h
    obtain ⟨⟨more, owed2⟩, hmore, hpair⟩ := exists_of_map_eq_ok h
    cases hpair
    obtain ⟨text', htext, hsame⟩ := ih hmore
    refine ⟨lexeme.rendered ++ text', by rw [htext]; rfl, ?_⟩
    rcases hsame with rfl | rfl
    · exact .inl rfl
    · exact .inr (List.append_assoc _ _ _).symm

/-- The same up to blanks at the end. -/
def SameFront (a b : List Char) : Prop :=
  ∃ front blanks blanks', (∀ c ∈ blanks, isBlank c = true) ∧ (∀ c ∈ blanks', isBlank c = true) ∧
    a = front ++ blanks ∧ b = front ++ blanks'

theorem SameFront.refl (text : List Char) : SameFront text text :=
  ⟨text, [], [], fun _ hc => (nomatch hc), fun _ hc => (nomatch hc), by simp, by simp⟩

theorem SameFront.append_left {a b : List Char} (h : SameFront a b) (text : List Char) :
    SameFront (text ++ a) (text ++ b) := by
  obtain ⟨front, blanks, blanks', hblanks, hblanks', rfl, rfl⟩ := h
  exact ⟨text ++ front, blanks, blanks', hblanks, hblanks', by simp, by simp⟩

theorem SameFront.trim_eq {a b : List Char} (h : SameFront a b) : Text.trim a = Text.trim b := by
  obtain ⟨front, blanks, blanks', hblanks, hblanks', rfl, rfl⟩ := h
  rw [Text.trim_append_blanks front hblanks, Text.trim_append_blanks front hblanks']

section Behind

variable {more : List (List Char)} {gap : Nat}

/-- A statement that ends is read the same when more lines follow. -/
theorem joinLines_continues {total : Nat} {owed text : List Char}
    {earlier later after : List (List Char)} (h : joinLines total owed earlier = .ok (text, after))
    (hlater : Continues more gap earlier later) (other : Nat) :
    ∃ text' after', joinLines other owed later = .ok (text', after') ∧ SameFront text text' ∧
      Continues more gap after after' := by
  induction earlier generalizing owed text later with
  | nil => cases h
  | cons line rest ih =>
    obtain ⟨line', rest', rfl, hrest, hline⟩ := hlater.cons_inv
    cases hstrip : stripLine owed line with
    | error cause =>
      rw [joinLines_fault hstrip] at h
      cases h
    | ok stripped =>
      obtain ⟨stripped, owed'⟩ := stripped
      by_cases howed : owed' = []
      · subst howed
        rw [joinLines_last hstrip] at h
        cases h
        obtain ⟨stripped', hstrip', hsame⟩ : ∃ stripped',
            stripLine owed line' = .ok (stripped', []) ∧
              SameFront (stripped ++ [' ']) (stripped' ++ [' ']) := by
          rcases hline with rfl | ⟨rfl, -⟩
          · exact ⟨stripped, hstrip, .refl _⟩
          · obtain ⟨stripped', hstrip', hsame⟩ := stripLine_return hstrip
            refine ⟨stripped', hstrip', ?_⟩
            rcases hsame with rfl | rfl
            · exact .refl _
            · exact ⟨stripped', ['\r', ' '], [' '], Text.forall_mem_of_all (by decide),
                Text.isBlank_of_mem_space, by simp, rfl⟩
        exact ⟨_, rest', joinLines_last hstrip', hsame, hrest⟩
      · rw [joinLines_open hstrip howed] at h
        obtain ⟨⟨more', after'⟩, hmore, hpair⟩ := exists_of_map_eq_ok h
        cases hpair
        -- a line that leaves a bracket open is not the last
        rcases hline with rfl | ⟨-, rfl⟩
        · obtain ⟨text', after', hjoin, hsame, hafter⟩ := ih hmore hrest
          refine ⟨stripped ++ ' ' :: text', after', ?_, ?_, hafter⟩
          · rw [joinLines_open hstrip howed, hjoin]
            rfl
          · exact (hsame.append_left [' ']).append_left stripped
        · cases hmore

theorem isNested_return (line : List Char) : isNested (line ++ ['\r']) = isNested line := by
  rw [isNested, isNested, isBlankLine_return, isIndented_return]

theorem Unindented.any_takeWhile (hmore : Unindented more) :
    (more.takeWhile isNested).any (!isBlankLine ·) = false := by
  induction more with
  | nil => rfl
  | cons line more ih =>
    cases hblank : isBlankLine line with
    | true =>
      have hmore' : Unindented more := by
        intro other hother
        exact hmore other (by simpa [hblank] using hother)
      simpa [isNested, hblank] using ih hmore'
    | false =>
      have hindent : isIndented line = false := hmore line (by simp [hblank])
      simp [isNested, hblank, hindent]

/-- Lines of a block stay in it, and it takes no more than blank lines from those behind. -/
theorem any_takeWhile_continues {earlier later : List (List Char)} (hmore : Unindented more)
    (h : Continues more gap earlier later) :
    (later.takeWhile isNested).any (!isBlankLine ·) =
      (earlier.takeWhile isNested).any (!isBlankLine ·) := by
  have hbehind := hmore.any_takeWhile
  have hempty : isBlankLine [] = true := rfl
  induction h with
  | ended => exact hbehind
  | empty => simpa [isNested, hempty] using hbehind
  | returned line =>
    simp only [List.takeWhile_cons, isNested_return]
    split
    · rw [List.any_cons, List.any_cons, hbehind, isBlankLine_return]
      rfl
    · rfl
  | @cons gap line earlier later h ih =>
    rw [List.takeWhile_cons, List.takeWhile_cons]
    split
    · rw [List.any_cons, List.any_cons, ih]
    · rfl

theorem nodesOfLines_dropWhile (total : Nat) (hmore : Unindented more) :
    nodesOfLines total (more.dropWhile isNested) = nodesOfLines total more := by
  induction more with
  | nil => rfl
  | cons line more ih =>
    cases hblank : isBlankLine line with
    | true =>
      have hmore' : Unindented more := by
        intro other hother
        exact hmore other (by simpa [hblank] using hother)
      have hnested : isNested line = true := by simp [isNested, hblank]
      rw [List.dropWhile_cons_of_pos hnested, ih hmore', nodesOfLines_cons, if_pos hblank]
    | false =>
      have hindent : isIndented line = false := hmore line (by simp [hblank])
      have hnested : ¬ isNested line = true := by simp [isNested, hblank, hindent]
      rw [List.dropWhile_cons_of_neg hnested]

theorem dropWhile_continues {earlier later : List (List Char)}
    (h : Continues more gap earlier later) :
    Continues more gap (earlier.dropWhile isNested) (later.dropWhile isNested) ∨
      (earlier.dropWhile isNested = [] ∧
        later.dropWhile isNested = more.dropWhile isNested) := by
  have hempty : isNested [] = true := rfl
  induction h with
  | ended => exact .inr ⟨rfl, rfl⟩
  | empty => exact .inr ⟨rfl, List.dropWhile_cons_of_pos hempty⟩
  | returned line =>
    by_cases hnested : isNested line = true
    · right
      have hnested' := (isNested_return line).trans hnested
      exact ⟨List.dropWhile_cons_of_pos hnested', List.dropWhile_cons_of_pos hnested⟩
    · left
      have hnested' : ¬ isNested (line ++ ['\r']) = true := by rwa [isNested_return]
      rw [List.dropWhile_cons_of_neg hnested', List.dropWhile_cons_of_neg hnested]
      exact .returned line
  | @cons gap line earlier later h ih =>
    by_cases hnested : isNested line = true
    · rw [List.dropWhile_cons_of_pos hnested, List.dropWhile_cons_of_pos hnested]
      exact ih
    · rw [List.dropWhile_cons_of_neg hnested, List.dropWhile_cons_of_neg hnested]
      exact .inl h.cons

/-- A line that is left starts the same with what follows, up to a carriage return at its end. -/
theorem exists_of_continues_cons {line : List Char} {rest later : List (List Char)}
    (h : Continues more gap (line :: rest) later ∨
      (line :: rest = [] ∧ later = more.dropWhile isNested)) :
    ∃ line' rest', later = line' :: rest' ∧ Continues more gap rest rest' ∧
      isBlankLine line' = isBlankLine line ∧ isIndented line' = isIndented line ∧
      startsComment line' = startsComment line := by
  rcases h with h | ⟨hnil, -⟩
  · obtain ⟨line', rest', hlater, hrest, hline⟩ := h.cons_inv
    refine ⟨line', rest', hlater, hrest, ?_⟩
    rcases hline with rfl | ⟨rfl, -⟩
    · exact ⟨rfl, rfl, rfl⟩
    · exact ⟨(isBlankLine_return _).symm, (isIndented_return _).symm, (startsComment_return _).symm⟩
  · cases hnil

/-- Behind the end of a sheet, or of its last block, the lines are read as a sheet of their own. -/
theorem nodesOfLines_behind (total : Nat) {later : List (List Char)} (hmore : Unindented more)
    (h : Continues more gap [] later ∨ later = more.dropWhile isNested) :
    nodesOfLines total later = nodesOfLines total more := by
  have hempty : isBlankLine [] = true := rfl
  rcases h with h | rfl
  · cases h with
    | ended => rfl
    | empty => rw [nodesOfLines_cons, if_pos hempty]
  · exact nodesOfLines_dropWhile total hmore

/-- The nodes of a sheet come before those of the lines behind it. -/
theorem nodesOfLines_continues {total : Nat} {earlier later : List (List Char)} {nodes : List Node}
    (hmore : Unindented more) (h : nodesOfLines total earlier = .ok nodes)
    (hlater : Continues more gap earlier later ∨
      (earlier = [] ∧ later = more.dropWhile isNested)) :
    nodesOfLines (total + gap) later = (nodesOfLines (total + gap) more).map (nodes ++ ·) := by
  fun_induction nodesOfLines total earlier generalizing later nodes with
  | case1 =>
    cases h
    rw [nodesOfLines_behind _ hmore (hlater.imp_right And.right)]
    exact (map_append_nil _).symm
  | case2 line rest hblank ih =>
    obtain ⟨line', rest', rfl, hrest, hline⟩ := exists_of_continues_cons hlater
    rw [nodesOfLines_cons, hline.1, if_pos hblank]
    exact ih h (.inl hrest)
  | case3 => cases h
  | case4 line rest hblank hindent hcomment ih =>
    obtain ⟨line', rest', rfl, hrest, hline⟩ := exists_of_continues_cons hlater
    rw [nodesOfLines_cons, hline.1, if_neg hblank, hline.2.1, if_neg hindent, hline.2.2,
      if_pos hcomment]
    exact ih h (dropWhile_continues hrest)
  | case5 => cases h
  | case6 => cases h
  | case7 => cases h
  | case8 line rest hblank hindent hcomment joined after hjoin text hasBlock hsemicolon =>
    rename_i hread ih
    obtain ⟨line', rest', rfl, hrest, hline⟩ := exists_of_continues_cons hlater
    obtain ⟨joined', after', hjoin', hsame, hafter⟩ :=
      joinLines_continues hjoin (hlater.resolve_right fun hnil => nomatch hnil.1) (total + gap)
    rw [nodesOfLines_cons, hline.1, if_neg hblank, hline.2.1, if_neg hindent, hline.2.2,
      if_neg hcomment, hjoin']
    dsimp only
    rw [← hsame.trim_eq, any_takeWhile_continues hmore hafter, if_neg hsemicolon, hread]
    exact ih h (dropWhile_continues hafter)
  | case9 line rest hblank hindent hcomment joined after hjoin text hasBlock hsemicolon item =>
    rename_i hread ih
    obtain ⟨line', rest', rfl, hrest, hline⟩ := exists_of_continues_cons hlater
    obtain ⟨joined', after', hjoin', hsame, hafter⟩ :=
      joinLines_continues hjoin (hlater.resolve_right fun hnil => nomatch hnil.1) (total + gap)
    obtain ⟨others, hothers, rfl⟩ := exists_of_map_eq_ok h
    have hplace : total + gap - rest'.length = total - rest.length := by
      rw [hrest.length_eq, Nat.add_sub_add_right]
    rw [nodesOfLines_cons, hline.1, if_neg hblank, hline.2.1, if_neg hindent, hline.2.2,
      if_neg hcomment, hjoin']
    dsimp only
    rw [← hsame.trim_eq, any_takeWhile_continues hmore hafter, if_neg hsemicolon, hread]
    dsimp only
    rw [ih hothers (dropWhile_continues hafter), hplace]
    cases nodesOfLines (total + gap) more <;> rfl

end Behind

end StyleConstants.Stylesheet.Indented
