import Mathlib.Data.List.Forall2
import StyleConstants.Proofs.Stylesheet.LineByLine

/-!
# Lines of nodes and faults

The line of a node is the line on which its statement starts, however many breaks the filler, the
literals and the blocks in front of it hold. In braces this is told by the place of the statement in
the source, where its first character stands; in the indented dialect a statement starts on a line
of its own, which starts with it. A fault lies on a line of the source.

* `Item.initial`, `initial_of_read`: the character that an item starts with.
* `Braced.exists_offsets`, `Indented.standBelow_nodesOfLines`: the nodes of both dialects.
* `Braced.nodesFrom_fault_bounds`, `Indented.nodesOfLines_fault_bounds`: the faults of both.
* `lines_are_positions`: the lines of nodes and faults.
-/

namespace StyleConstants

open Text (newlines isBlank)

namespace Stylesheet

/-! ## The first character of an item -/

/-- The character that an item starts with; a block without anything in front starts with its
brace. -/
def Item.initial : Item → Option Char
  | .variable _ => some '$'
  | .atRule _ => some '@'
  | .rule prelude => prelude.toList.head?.or (some '{')
  | .statement text => text.toList.head?

theorem Item.initial_of_read {text : List Char} {hasBlock : Bool} {item : Item}
    (h : Item.read text hasBlock = .ok (some item)) :
    item.initial = text.head?.or (some '{') := by
  unfold Item.read at h
  split at h
  · obtain ⟨declaration, -, hitem⟩ := exists_of_map_eq_ok h
    cases hitem
    rfl
  · obtain ⟨rule, -, hitem⟩ := exists_of_map_eq_ok h
    cases hitem
    rfl
  · split at h
    · cases h
      rw [initial, String.toList_ofList]
    · split at h
      · cases h
      · rename_i hempty
        cases h
        rw [initial, String.toList_ofList]
        cases text with
        | nil => exact absurd rfl hempty
        | cons c text => rfl

/-- A lexeme that is no comment is kept from its first character on. -/
theorem Lexeme.next_starts (lineComments : Bool) {c : Char} {tail : List Char}
    (hslash : c = '/' → KeepsSlash tail) :
    (∃ place, next lineComments (c :: tail) = .error ⟨.openQuote c, place⟩) ∨
    ∃ lexeme rest, next lineComments (c :: tail) = .ok (some (lexeme, rest)) ∧
      lexeme ≠ .lineComment ∧ lexeme.rendered.head? = some c := by
  obtain ⟨result, hresult⟩ : ∃ result, next lineComments (c :: tail) = result := ⟨_, rfl⟩
  rw [hresult]
  unfold next at hresult
  split at hresult
  · rename_i htext
    cases htext
  · rename_i htext
    cases htext
    exact absurd rfl (hslash rfl '*' rfl).2
  · rename_i htext
    cases htext
    exact absurd rfl (hslash rfl '/' rfl).1
  · rename_i htext
    cases htext
    exact .inr ⟨_, _, hresult.symm, by simp, rfl⟩
  · rename_i htext
    cases htext
    split at hresult
    · split at hresult
      · exact .inl ⟨_, hresult.symm⟩
      · exact .inr ⟨_, _, hresult.symm, by simp, rfl⟩
    · exact .inr ⟨_, _, hresult.symm, by simp, rfl⟩

/-! ## Places in braces -/

/-- The node lies on the line of the character at the offset, with which its item starts. -/
structure Node.StandsAt (source : List Char) (offset : Nat) (node : Node) : Prop where
  line : node.line = 1 + newlines (source.take offset)
  starts : ∃ c, source[offset]? = some c ∧ node.item.initial = some c

namespace Braced

/-- Filler is left for a character that is none. -/
theorem skipFiller_stops {text tail : List Char} {c : Char}
    (h : skipFiller text = .ok (c :: tail)) :
    isBlank c = false ∧ c ≠ ';' ∧ (c = '/' → KeepsSlash tail) := by
  fun_induction skipFiller text with
  | case1 => cases h
  | case2 d rest _ ih => exact ih h
  | case3 d rest _ _ ih => exact ih h
  | case4 => cases h
  | case5 d rest _ _ _ after _ ih => exact ih h
  | case6 d rest hskip hline hblock =>
    cases h
    simp only [Bool.or_eq_true, beq_iff_eq, not_or, Bool.not_eq_true] at hskip
    refine ⟨hskip.1, hskip.2, ?_⟩
    rintro hslash e he
    refine ⟨?_, ?_⟩
    · rintro rfl
      exact hline ⟨hslash, he⟩
    · rintro rfl
      exact hblock ⟨hslash, he⟩

/-- A statement starts with the first character of its text, unless it is the brace of a block
without anything in front. -/
theorem readStatement_starts {c : Char} {tail : List Char} {reading : Reading}
    (hslash : c = '/' → KeepsSlash tail) (hsemicolon : c ≠ ';') (hbrace : c ≠ '}')
    (h : readStatement [] (c :: tail) = .ok reading) :
    reading.text.head?.or (some '{') = some c := by
  rcases Lexeme.next_starts (!([] : List Char).contains ')') hslash with
    ⟨place, hnext⟩ | ⟨lexeme, rest, hnext, -, hhead⟩
  · rw [readStatement] at h
    split at h
    · cases h
    · rename_i hnone
      cases hnext.symm.trans hnone
    · rename_i hsome
      cases hnext.symm.trans hsome
  · rw [readStatement_of_next hnext] at h
    cases hend : endingAt [] lexeme (c :: tail) rest with
    | some found =>
      rw [hend] at h
      cases h
      unfold endingAt at hend
      split at hend
      · exact absurd (next_char hnext).symm hsemicolon
      · cases hend
        rw [← next_char hnext]
        rfl
      · exact absurd (next_char hnext).symm hbrace
      · cases hend
    | none =>
      rw [hend] at h
      dsimp only at h
      cases hnest : lexeme.nest [] with
      | error cause =>
        rw [hnest] at h
        cases h
      | ok owed =>
        rw [hnest] at h
        obtain ⟨more, -, hreading⟩ := exists_of_map_eq_ok h
        rw [← hreading, Reading.prepend, List.head?_append, hhead]
        rfl

theorem initial_of_readItem {text tail : List Char} {c : Char} {chunk : Chunk} {item : Item}
    (hfiller : skipFiller text = .ok (c :: tail)) (hbrace : c ≠ '}')
    (hitem : readItem (c :: tail) = .ok chunk)
    (hread : Item.read (Text.trim chunk.text) chunk.hasBlock = .ok (some item)) :
    item.initial = some c := by
  obtain ⟨hblank, hsemicolon, hslash⟩ := skipFiller_stops hfiller
  obtain ⟨reading, hreading, htext⟩ : ∃ reading, readStatement [] (c :: tail) = .ok reading ∧
      chunk.text = reading.text := by
    cases hreading : readStatement [] (c :: tail) with
    | error fault =>
      rw [readItem, hreading] at hitem
      cases hitem
    | ok reading =>
      by_cases hblock : reading.ending = .block
      · rw [readItem_of_block hreading hblock] at hitem
        obtain ⟨rest, -, hchunk⟩ := exists_of_map_eq_ok hitem
        exact ⟨reading, rfl, by rw [← hchunk]⟩
      · rw [readItem_of_no_block hreading hblock] at hitem
        cases hitem
        exact ⟨reading, rfl, rfl⟩
  have hstart := readStatement_starts hslash hsemicolon hbrace hreading
  have hvisible : ∀ d ∈ reading.text.head?, isBlank d = false := by
    intro d hd
    rw [Option.mem_def.1 hd] at hstart
    cases hstart
    exact hblank
  rw [Item.initial_of_read hread, htext, Text.head?_trim, Text.trimStart_eq_self hvisible, hstart]

/-- The nodes stand one behind the other, none of them in front of what was read. -/
theorem exists_offsets {source text : List Char} {nodes : List Node} (htext : text <:+ source)
    (h : nodesFrom source text = .ok nodes) :
    ∃ offsets : List Nat, offsets.Pairwise (· < ·) ∧
      (∀ offset ∈ offsets, source.length - text.length ≤ offset) ∧
      List.Forall₂ (Node.StandsAt source) offsets nodes := by
  fun_induction nodesFrom source text generalizing nodes with
  | case1 => cases h
  | case2 =>
    cases h
    exact ⟨[], .nil, List.forall_mem_nil _, .nil⟩
  | case3 => cases h
  | case4 => cases h
  | case5 => cases h
  | case6 text c tail hfiller hc chunk hitem hread ih =>
    have hstart := skipFiller_suffix hfiller
    have hrest := (readItem_suffix hitem).trans hstart
    obtain ⟨offsets, hincreasing, hbehind, hstands⟩ := ih (hrest.trans htext) h
    refine ⟨offsets, hincreasing, fun offset hmem => ?_, hstands⟩
    exact Nat.le_trans (Nat.sub_le_sub_left hrest.length_le _) (hbehind offset hmem)
  | case7 text c tail hfiller hc chunk hitem item hread ih =>
    have hstart := skipFiller_suffix hfiller
    have hrest := (readItem_suffix hitem).trans (hstart.trans htext)
    obtain ⟨others, hothers, rfl⟩ := exists_of_map_eq_ok h
    obtain ⟨offsets, hincreasing, hbehind, hstands⟩ := ih hrest hothers
    obtain ⟨passed, rfl⟩ := hstart.trans htext
    have hlt := readItem_lt hc hitem
    have hle := hstart.length_le
    have hlength : (passed ++ c :: tail).length = passed.length + (c :: tail).length :=
      List.length_append
    refine ⟨passed.length :: offsets, ?_, ?_, .cons ?_ hstands⟩
    · refine List.pairwise_cons.2 ⟨fun offset hmem => ?_, hincreasing⟩
      have hoffset := hbehind offset hmem
      omega
    · intro offset hmem
      rcases List.mem_cons.1 hmem with rfl | hmem
      · omega
      · have hoffset := hbehind offset hmem
        omega
    · refine ⟨?_, c, by simp, initial_of_readItem hfiller hc hitem hread⟩
      rw [List.take_left, Text.lineOf_append]

end Braced

/-! ## Lines of the indented dialect -/

/-- The node has the number of one of the lines, counted from 1, and its item starts with the first
character of the line that is not blank. -/
structure Node.StandsOn (lines : List (List Char)) (node : Node) : Prop where
  line_pos : 0 < node.line
  starts : ∃ line c, lines[node.line - 1]? = some line ∧ (Text.trim line).head? = some c ∧
    node.item.initial = some c

namespace Indented

theorem stripLine_blanks {blanks : List Char} (h : ∀ c ∈ blanks, isBlank c = true)
    (owed line : List Char) : stripLine owed (blanks ++ line) =
      (stripLine owed line).map fun (text, owed) => (blanks ++ text, owed) := by
  induction blanks with
  | nil =>
    rw [List.nil_append]
    cases stripLine owed line <;> rfl
  | cons b blanks ih =>
    have hb : isBlank b = true := h b List.mem_cons_self
    obtain ⟨hplain, hslash, -⟩ := Text.isPlain_of_isBlank hb
    have hquote : Lexeme.isQuote b = false :=
      Lexeme.isQuote_eq_false_iff.2 ⟨hplain.ne (by decide), hplain.ne (by decide)⟩
    have hhash : b ≠ '#' := by
      rintro rfl
      exact absurd hb (by decide)
    have hnext : Lexeme.next (!owed.contains ')') (b :: (blanks ++ line)) =
        .ok (some (.char b, blanks ++ line)) := Lexeme.next_ordinary ⟨hquote, hslash, hhash⟩ _
    rw [List.cons_append, stripLine_eq, hnext]
    dsimp only
    rw [if_neg (by simp), Braced.nest_char (.inl hplain)]
    dsimp only
    rw [ih fun c hc => h c (List.mem_cons_of_mem b hc)]
    cases stripLine owed line <;> rfl

/-- A character that is no blank and opens no comment is kept in front. -/
theorem stripLine_visible {owed owed' tail text : List Char} {c : Char}
    (hslash : c = '/' → KeepsSlash tail) (h : stripLine owed (c :: tail) = .ok (text, owed')) :
    text.head? = some c := by
  rw [stripLine_eq] at h
  rcases Lexeme.next_starts (!owed.contains ')') hslash with
    ⟨place, hnext⟩ | ⟨lexeme, rest, hnext, hlexeme, hhead⟩
  · rw [hnext] at h
    cases h
  · rw [hnext] at h
    dsimp only at h
    rw [if_neg hlexeme] at h
    cases hnest : lexeme.nest owed with
    | error cause =>
      rw [hnest] at h
      cases h
    | ok owed1 =>
      rw [hnest] at h
      obtain ⟨⟨more, owed2⟩, -, hpair⟩ := exists_of_map_eq_ok h
      cases hpair
      rw [List.head?_append, hhead]
      rfl

/-- The text of a line that is neither blank nor a comment starts as the line does. -/
theorem stripLine_starts {owed owed' line text : List Char} (hblank : ¬ isBlankLine line = true)
    (hcomment : ¬ startsComment line = true) (h : stripLine owed line = .ok (text, owed')) :
    ∃ c, (Text.trim line).head? = some c ∧ (Text.trim text).head? = some c := by
  obtain ⟨blanks, hblanks, hline⟩ := Text.exists_blank_append_trimStart line
  cases hstart : Text.trimStart line with
  | nil =>
    rw [hstart, List.append_nil] at hline
    exact absurd (List.all_eq_true.2 (hline ▸ hblanks)) hblank
  | cons c tail =>
    have hvisible : isBlank c = false := Text.isBlank_head_trimStart line c (by rw [hstart]; rfl)
    have hslash : c = '/' → KeepsSlash tail := by
      rintro rfl d hd
      obtain ⟨rest, rfl⟩ := List.head?_eq_some_iff.1 hd
      rw [startsComment, hstart] at hcomment
      refine ⟨?_, ?_⟩
      · rintro rfl
        exact hcomment rfl
      · rintro rfl
        exact hcomment rfl
    rw [hline, hstart, stripLine_blanks hblanks] at h
    obtain ⟨⟨kept, owed1⟩, hkept, hpair⟩ := exists_of_map_eq_ok h
    cases hpair
    obtain ⟨rest, rfl⟩ := List.head?_eq_some_iff.1 (stripLine_visible hslash hkept)
    refine ⟨c, by rw [Text.head?_trim, hstart]; rfl, ?_⟩
    rw [Text.head?_trim, Text.trimStart_append_left hblanks,
      Text.trimStart_eq_self fun d hd => by cases hd; exact hvisible]
    rfl

/-- The text of a statement starts as its first line does. -/
theorem joinLines_starts {total : Nat} {line joined : List Char} {rest after : List (List Char)}
    (hblank : ¬ isBlankLine line = true) (hcomment : ¬ startsComment line = true)
    (h : joinLines total [] (line :: rest) = .ok (joined, after)) :
    ∃ c, (Text.trim line).head? = some c ∧ (Text.trim joined).head? = some c := by
  cases hstrip : stripLine [] line with
  | error cause =>
    rw [joinLines_fault hstrip] at h
    cases h
  | ok stripped =>
    obtain ⟨text, owed⟩ := stripped
    obtain ⟨c, hline, htext⟩ := stripLine_starts hblank hcomment hstrip
    refine ⟨c, hline, ?_⟩
    by_cases howed : owed = []
    · subst howed
      rw [joinLines_last hstrip] at h
      cases h
      exact Text.head?_trim_append htext [' ']
    · rw [joinLines_open hstrip howed] at h
      obtain ⟨⟨more, after'⟩, -, hpair⟩ := exists_of_map_eq_ok h
      cases hpair
      exact Text.head?_trim_append htext (' ' :: more)

theorem dropWhile_joinLines_suffix {total : Nat} {line joined : List Char}
    {rest after : List (List Char)} (h : joinLines total [] (line :: rest) = .ok (joined, after)) :
    after.dropWhile isNested <:+ rest := by
  obtain ⟨_, _, hcons, hsuffix⟩ := joinLines_suffix h
  cases hcons
  exact (List.dropWhile_suffix isNested).trans hsuffix

/-- The nodes stand on lines of their own, one beneath the other and none among the first
`height`. -/
structure StandBelow (lines : List (List Char)) (height : Nat) (nodes : List Node) : Prop where
  increasing : nodes.Pairwise (·.line < ·.line)
  below : ∀ node ∈ nodes, height < node.line
  stands : ∀ node ∈ nodes, node.StandsOn lines

theorem StandBelow.mono {lines : List (List Char)} {height lower : Nat} {nodes : List Node}
    (h : StandBelow lines height nodes) (hle : lower ≤ height) : StandBelow lines lower nodes where
  increasing := h.increasing
  below := fun node hmem => Nat.lt_of_le_of_lt hle (h.below node hmem)
  stands := h.stands

/-- What is read from the last lines of a sheet stands on them. -/
theorem standBelow_nodesOfLines {all lines : List (List Char)} {nodes : List Node}
    (hlines : lines <:+ all) (h : nodesOfLines all.length lines = .ok nodes) :
    StandBelow all (all.length - lines.length) nodes := by
  fun_induction nodesOfLines all.length lines generalizing nodes with
  | case1 =>
    cases h
    exact ⟨.nil, List.forall_mem_nil _, List.forall_mem_nil _⟩
  | case2 line rest hblank ih =>
    have hrest := List.suffix_cons line rest
    exact (ih (hrest.trans hlines) h).mono (Nat.sub_le_sub_left hrest.length_le _)
  | case3 => cases h
  | case4 line rest hblank hindent hcomment ih =>
    have hrest := (List.dropWhile_suffix isNested).trans (List.suffix_cons line rest)
    exact (ih (hrest.trans hlines) h).mono (Nat.sub_le_sub_left hrest.length_le _)
  | case5 => cases h
  | case6 => cases h
  | case7 => cases h
  | case8 line rest hblank hindent hcomment joined after hjoin text hasBlock hsemicolon =>
    rename_i ih
    have hrest := (dropWhile_joinLines_suffix hjoin).trans (List.suffix_cons line rest)
    exact (ih (hrest.trans hlines) h).mono (Nat.sub_le_sub_left hrest.length_le _)
  | case9 line rest hblank hindent hcomment joined after hjoin text hasBlock hsemicolon item =>
    rename_i hread ih
    have hafter := dropWhile_joinLines_suffix hjoin
    obtain ⟨others, hothers, rfl⟩ := exists_of_map_eq_ok h
    have hbelow := (ih ((hafter.trans (List.suffix_cons line rest)).trans hlines) hothers).mono
      (Nat.sub_le_sub_left hafter.length_le _)
    obtain ⟨passed, rfl⟩ := hlines
    have hplace : (passed ++ line :: rest).length - rest.length = passed.length + 1 := by
      rw [List.length_append, List.length_cons]
      omega
    rw [hplace] at hbelow ⊢
    refine ⟨?_, ?_, ?_⟩
    · exact List.pairwise_cons.2 ⟨hbelow.below, hbelow.increasing⟩
    · intro node hmem
      rw [List.length_append, Nat.add_sub_cancel]
      rcases List.mem_cons.1 hmem with rfl | hmem
      · exact Nat.lt_succ_self _
      · exact Nat.lt_of_succ_lt (hbelow.below node hmem)
    · intro node hmem
      rcases List.mem_cons.1 hmem with rfl | hmem
      · obtain ⟨c, hline, htext⟩ := joinLines_starts hblank hcomment hjoin
        refine ⟨Nat.succ_pos _, line, c, by simp, hline, ?_⟩
        rw [Item.initial_of_read hread, htext]
        rfl
      · exact hbelow.stands node hmem

end Indented

/-- A line has the characters of the piece in its place, up to a carriage return. -/
theorem Node.StandsOn.of_lines {source : List Char} {node : Node}
    (h : node.StandsOn (Text.lines source)) : node.StandsOn (Text.split '\n' source) := by
  obtain ⟨hpos, line, c, hline, hhead, hinitial⟩ := h
  obtain ⟨piece, hpiece, hsame⟩ := Text.exists_piece_of_getElem?_lines hline
  refine ⟨hpos, piece, c, hpiece, ?_, hinitial⟩
  rcases hsame with rfl | rfl
  · exact hhead
  · rcases Text.chomp_cases piece with hchomp | hchomp
    · rw [← hchomp]
      exact hhead
    · rw [hchomp]
      exact Text.head?_trim_append hhead ['\r']

/-! ## Lines of faults -/

theorem Fault.locate_bounds (source : List Char) (fault : Fault) :
    1 ≤ (fault.locate source).line ∧ (fault.locate source).line ≤ 1 + newlines source :=
  ⟨Nat.le_add_right _ _, Nat.add_le_add_left (Nat.sub_le _ _) 1⟩

theorem Braced.nodesFrom_fault_bounds {source text : List Char} {rejection : Rejection}
    (h : nodesFrom source text = .error rejection) :
    1 ≤ rejection.line ∧ rejection.line ≤ 1 + newlines source := by
  fun_induction nodesFrom source text with
  | case1 => cases h; exact Fault.locate_bounds _ _
  | case2 => cases h
  | case3 => cases h; exact Fault.locate_bounds _ _
  | case4 => cases h; exact Fault.locate_bounds _ _
  | case5 => cases h; exact Fault.locate_bounds _ _
  | case6 text c tail hfiller hc chunk hitem hread ih => exact ih h
  | case7 text c tail hfiller hc chunk hitem item hread ih =>
    exact ih (exists_of_map_eq_error h)

namespace Indented

theorem joinLines_fault_bounds {total : Nat} {owed : List Char} {lines : List (List Char)}
    {rejection : Rejection} (hpos : 0 < total) (hle : lines.length ≤ total)
    (h : joinLines total owed lines = .error rejection) :
    1 ≤ rejection.line ∧ rejection.line ≤ total := by
  induction lines generalizing owed with
  | nil =>
    cases h
    exact ⟨hpos, Nat.le_refl total⟩
  | cons line rest ih =>
    rw [List.length_cons] at hle
    cases hstrip : stripLine owed line with
    | error cause =>
      rw [joinLines_fault hstrip] at h
      cases h
      dsimp only
      omega
    | ok stripped =>
      obtain ⟨text, owed'⟩ := stripped
      by_cases howed : owed' = []
      · subst howed
        rw [joinLines_last hstrip] at h
        cases h
      · rw [joinLines_open hstrip howed] at h
        exact ih (Nat.le_of_succ_le hle) (exists_of_map_eq_error h)

theorem nodesOfLines_fault_bounds {total : Nat} {lines : List (List Char)} {rejection : Rejection}
    (hle : lines.length ≤ total) (h : nodesOfLines total lines = .error rejection) :
    1 ≤ rejection.line ∧ rejection.line ≤ total := by
  have hplace : ∀ (line : List Char) (rest : List (List Char)), (line :: rest).length ≤ total →
      1 ≤ total - rest.length ∧ total - rest.length ≤ total := by
    intro line rest hle
    rw [List.length_cons] at hle
    omega
  fun_induction nodesOfLines total lines with
  | case1 => cases h
  | case2 line rest hblank ih => exact ih (Nat.le_of_succ_le hle) h
  | case3 line rest => cases h; exact hplace line rest hle
  | case4 line rest hblank hindent hcomment ih =>
    exact ih (Nat.le_trans (length_dropWhile_isNested_le rest) (Nat.le_of_succ_le hle)) h
  | case5 line rest hblank hindent hcomment fault hjoin =>
    cases h
    exact joinLines_fault_bounds (Nat.lt_of_lt_of_le (Nat.succ_pos _) hle) hle hjoin
  | case6 line rest => cases h; exact hplace line rest hle
  | case7 line rest => cases h; exact hplace line rest hle
  | case8 line rest hblank hindent hcomment joined after hjoin text hasBlock hsemicolon =>
    rename_i ih
    have hafter := (dropWhile_joinLines_suffix hjoin).length_le
    exact ih (Nat.le_trans hafter (Nat.le_of_succ_le hle)) h
  | case9 line rest hblank hindent hcomment joined after hjoin text hasBlock hsemicolon item =>
    rename_i ih
    have hafter := (dropWhile_joinLines_suffix hjoin).length_le
    exact ih (Nat.le_trans hafter (Nat.le_of_succ_le hle)) (exists_of_map_eq_error h)

end Indented

/-- The lines that nodes and faults are reported for are true ones. In braces the nodes stand one
behind the other, each on the line of its first character. In the indented dialect they stand one
beneath the other, each on a line that starts with its first character. A fault lies on one of the
lines of the source. -/
theorem lines_are_positions (source : List Char) :
    (∀ sheet, parse .braced source = .ok sheet → ∃ offsets : List Nat,
      offsets.Pairwise (· < ·) ∧ List.Forall₂ (Node.StandsAt source) offsets sheet.nodes) ∧
    (∀ sheet, parse .indented source = .ok sheet → sheet.nodes.Pairwise (·.line < ·.line) ∧
      ∀ node ∈ sheet.nodes, node.StandsOn (Text.split '\n' source)) ∧
    ∀ dialect rejection, parse dialect source = .error rejection →
      1 ≤ rejection.line ∧ rejection.line ≤ 1 + newlines source := by
  refine ⟨?braced, ?indented, ?faults⟩
  case braced =>
    intro sheet h
    obtain ⟨nodes, hnodes, rfl⟩ := exists_of_map_eq_ok h
    obtain ⟨offsets, hincreasing, -, hstands⟩ :=
      Braced.exists_offsets (List.suffix_refl source) hnodes
    exact ⟨offsets, hincreasing, hstands⟩
  case indented =>
    intro sheet h
    obtain ⟨nodes, hnodes, rfl⟩ := exists_of_map_eq_ok h
    have hbelow := Indented.standBelow_nodesOfLines (List.suffix_refl _) hnodes
    exact ⟨hbelow.increasing, fun node hmem => (hbelow.stands node hmem).of_lines⟩
  case faults =>
    intro dialect rejection h
    cases dialect with
    | braced => exact Braced.nodesFrom_fault_bounds (exists_of_map_eq_error h)
    | indented =>
      obtain ⟨hpos, hle⟩ :=
        Indented.nodesOfLines_fault_bounds (Nat.le_refl _) (exists_of_map_eq_error h)
      exact ⟨hpos, Nat.le_trans hle (Text.length_lines_le source)⟩

/-- Breaks in a comment, in a literal and in a block, a statement of two lines, and a bracket that
is left open. -/
theorem lines_are_positions_counted :
    (∃ nodes, parse .braced "/*\n*/ $a: '\\\n';\n\x7b\n\x7d\n@b c".toList = .ok ⟨nodes⟩ ∧
      nodes.map (·.line) = [2, 4, 6] ∧ ∃ offsets : List Nat, offsets.Pairwise (· < ·) ∧
        List.Forall₂ (Node.StandsAt "/*\n*/ $a: '\\\n';\n\x7b\n\x7d\n@b c".toList) offsets nodes) ∧
    (∃ nodes, parse .indented "// x\n  y\n$a: (1,\n2)\n@b c".toList = .ok ⟨nodes⟩ ∧
      nodes.map (·.line) = [3, 5] ∧
      ∀ node ∈ nodes, node.StandsOn (Text.split '\n' "// x\n  y\n$a: (1,\n2)\n@b c".toList)) ∧
    parse .indented "\n$a: (".toList = .error ⟨2, .missingCloser ')'⟩ ∧
      2 ≤ 1 + newlines "\n$a: (".toList := by
  have hbraced : parse .braced "/*\n*/ $a: '\\\n';\n\x7b\n\x7d\n@b c".toList = .ok
      ⟨[⟨2, .variable ⟨"a", "'\\\n'", false, false⟩⟩, ⟨4, .rule ""⟩,
        ⟨6, .atRule ⟨"b", "c", false⟩⟩]⟩ := by decide +kernel
  have hindented : parse .indented "// x\n  y\n$a: (1,\n2)\n@b c".toList = .ok
      ⟨[⟨3, .variable ⟨"a", "(1, 2)", false, false⟩⟩, ⟨5, .atRule ⟨"b", "c", false⟩⟩]⟩ := by
    decide +kernel
  have hfault : parse .indented "\n$a: (".toList = .error ⟨2, .missingCloser ')'⟩ := by
    decide +kernel
  obtain ⟨hoffsets, -, -⟩ := lines_are_positions "/*\n*/ $a: '\\\n';\n\x7b\n\x7d\n@b c".toList
  obtain ⟨-, hlines, -⟩ := lines_are_positions "// x\n  y\n$a: (1,\n2)\n@b c".toList
  obtain ⟨-, -, hfaults⟩ := lines_are_positions "\n$a: (".toList
  exact ⟨⟨_, hbraced, rfl, hoffsets _ hbraced⟩, ⟨_, hindented, rfl, (hlines _ hindented).2⟩,
    hfault, (hfaults .indented _ hfault).2⟩

end Stylesheet

end StyleConstants
