import StyleConstants.Proofs.Stylesheet.Cursor.Lexemes
import StyleConstants.Proofs.Stylesheet.Dialects

/-!
# The dialect with braces, read with a cursor

The loops end with what the readers of the dialect give for the end part at their place.

* `gapTurn_sound`, `statementTurn_sound`, `blockTurn_sound`, `sheetTurn_sound`: every turn leaves
  what is still to be read as it is.
* `itemEnd_eq`: a statement with its block.
* `le_braces`: the depth inside a block.
-/

namespace StyleConstants.Stylesheet.Braced

open Lexeme Loop
open Text (isBlank)

/-! ## Gaps -/

section Gap

variable {source : List Char} {place : Nat}

/-- What the gap from `place` is: a fault of the filler there, or a place further on from which the
filler goes on, at a semicolon or at what is no filler. -/
inductive Gap (source : List Char) (place : Nat) : Except Fault Nat → Prop
  | fault {fault : Fault} (h : skipFiller (source.drop place) = .error fault) :
      Gap source place (.error fault)
  | place {after : Nat} (hfrom : place ≤ after) (hle : after ≤ source.length)
      (hfiller : skipFiller (source.drop place) = skipFiller (source.drop after))
      (hstop : source[after]? = some ';' ∨
        skipFiller (source.drop after) = .ok (source.drop after)) :
      Gap source place (.ok after)

theorem Gap.congr {other : Nat} {result : Except Fault Nat} (hle : place ≤ other)
    (h : skipFiller (source.drop place) = skipFiller (source.drop other))
    (hgap : Gap source other result) : Gap source place result := by
  cases hgap with
  | fault hfault => exact .fault (h.trans hfault)
  | place hfrom hle' hfiller hstop => exact .place (hle.trans hfrom) hle' (h.trans hfiller) hstop

/-- Filler that is passed is a turn of the loop. -/
theorem gap_again {after : Nat} (hlt : place < after) (hle : after ≤ source.length)
    (h : skipFiller (source.drop place) = skipFiller (source.drop after)) :
    IsSound (· ≤ source.length) id (Gap source) place (.some (.inr after)) :=
  .again hle hlt fun _ => Gap.congr hlt.le h

theorem gapTurn_sound (h : place ≤ source.length) :
    IsSound (· ≤ source.length) id (Gap source) place (gapTurn source place) := by
  unfold gapTurn
  rcases place_cases h with ⟨hget, hdrop, -⟩ | ⟨c, tail, hc⟩
  · rw [hget]
    refine .stop (.place le_rfl h rfl (.inr ?_))
    rw [hdrop, skipFiller_nil]
  · rw [hc.get]
    dsimp only
    by_cases hblank : isBlank c = true
    · rw [if_pos hblank, hc.bump]
      refine gap_again (Nat.lt_succ_self place) hc.lt ?_
      rw [hc.drop, hc.rest, skipFiller_skip (.inl hblank)]
    rw [if_neg hblank, hc.next]
    by_cases hline : c = '/' ∧ tail.head? = some '/'
    · rw [if_pos hline]
      obtain ⟨rfl, hslash⟩ := hline
      obtain ⟨rest, rfl⟩ := List.head?_eq_some_iff.1 hslash
      obtain ⟨hlt, hle, hdrop⟩ := hc.placeOf_suffix
        ((afterLine_suffix rest).trans (List.suffix_cons '/' rest))
      rw [lineEnd_eq hc, Part.map_some]
      refine gap_again hlt hle ?_
      rw [hc.drop, hdrop, skipFiller_lineComment, afterLine_cons (by decide)]
    rw [if_neg hline]
    by_cases hcomment : c = '/' ∧ tail.head? = some '*'
    · rw [if_pos hcomment]
      obtain ⟨rfl, hstar⟩ := hcomment
      obtain ⟨rest, rfl⟩ := List.head?_eq_some_iff.1 hstar
      have hend := commentEnd_eq hc
      cases hclose : closeComment rest with
      | none =>
        rw [hclose] at hend
        rw [orFault_error hend]
        refine .stop (.fault ?_)
        rw [hc.drop, skipFiller_cons, if_neg not_skipped_slash, if_neg hline, if_pos ⟨rfl, rfl⟩,
          List.tail_cons, hclose]
      | some after =>
        rw [hclose] at hend
        rw [orFault_ok hend]
        obtain ⟨hlt, hle, hdrop⟩ := hc.placeOf_suffix
          ((closeComment_suffix hclose).trans (List.suffix_cons '*' rest))
        refine gap_again hlt hle ?_
        rw [hc.drop, hdrop, skipFiller_blockComment hclose]
    rw [if_neg hcomment]
    refine .stop (.place le_rfl h rfl ?_)
    by_cases hsemicolon : c = ';'
    · exact .inl (hsemicolon ▸ hc.get)
    · right
      have hskip : ¬ (isBlank c || c == ';') = true := by
        simp [hblank, hsemicolon]
      rw [hc.drop, skipFiller_cons, if_neg hskip, if_neg hline, if_neg hcomment]

theorem exists_gap_progresses (h : place ≤ source.length) :
    ∃ result, Gap source place result ∧
      Progresses (gapTurn source) id source.length place result :=
  exists_progresses (fun _ => gapTurn_sound) (fun _ => id) h

end Gap

/-! ## Statements -/

section Statement

variable {source tail owed text : List Char} {place : Nat} {c : Char}

/-- What the statement is of which a part was read. -/
def statementValue (source : List Char) (scan : Scan) : Except Fault Ended :=
  (readStatement scan.owed (source.drop scan.place)).map fun reading =>
    ⟨scan.text ++ reading.text, reading.ending, placeOf source reading.rest⟩

/-- A turn for statements is sound if it keeps to the source and the statement stays as it is. -/
abbrev IsStatementTurn (source : List Char) (scan : Scan) :
    Part (Except Fault Ended ⊕ Scan) → Prop :=
  IsSound (fun scan : Scan => scan.place ≤ source.length) (·.place)
    (fun scan result => result = statementValue source scan) scan

theorem readStatement_of_fault {fault : Fault}
    (h : next (!owed.contains ')') text = .error fault) :
    readStatement owed text = .error fault := by
  rw [readStatement]
  split
  · rename_i hnext
    cases hnext.symm.trans h
    rfl
  · rename_i hnext
    cases hnext.symm.trans h
  · rename_i hnext
    cases hnext.symm.trans h

theorem statement_fault {fault : Fault}
    (h : readStatement owed (source.drop place) = .error fault) :
    IsStatementTurn source ⟨text, owed, place⟩ (.some (.inl (.error fault))) := by
  refine .stop ?_
  rw [statementValue, h]
  rfl

theorem statement_end {ending : Ending} {after : Nat} (hle : after ≤ source.length)
    (h : readStatement owed (source.drop place) = .ok ⟨[], ending, source.drop after⟩) :
    IsStatementTurn source ⟨text, owed, place⟩ (.some (.inl (.ok ⟨text, ending, after⟩))) := by
  refine .stop ?_
  rw [statementValue, h, Except.map, List.append_nil, placeOf_drop hle]

/-- A lexeme that does not end the statement is a turn of the loop. -/
theorem statement_again {owed' : List Char} {lexeme : Lexeme} {after : Nat}
    (h : Takes (!owed.contains ')') source place lexeme after)
    (hend : endingAt owed lexeme (source.drop place) (source.drop after) = none)
    (hnest : lexeme.nest owed = .ok owed') :
    IsStatementTurn source ⟨text, owed, place⟩
      (.some (.inr ⟨text ++ lexeme.rendered, owed', after⟩)) := by
  refine .again_of_value h.le h.lt ?_
  rw [statementValue, statementValue, readStatement_next h.next hend hnest]
  cases readStatement owed' (source.drop after) with
  | error fault => rfl
  | ok reading => simp [Except.map, Reading.prepend]

/-- Only a single character ends a statement. -/
theorem endingAt_eq_none {lexeme : Lexeme} (h : ∀ c, lexeme ≠ .char c) (here rest : List Char) :
    endingAt owed lexeme here rest = none := by
  unfold endingAt
  split
  · exact absurd rfl (h _)
  · exact absurd rfl (h _)
  · exact absurd rfl (h _)
  · rfl

theorem statementTurn_sound {scan : Scan} (h : scan.place ≤ source.length) :
    IsStatementTurn source scan (statementTurn source scan) := by
  obtain ⟨text, owed, place⟩ := scan
  unfold statementTurn
  rcases place_cases h with ⟨hget, hdrop, -⟩ | ⟨c, tail, hc⟩
  · dsimp only at hget hdrop ⊢
    rw [hget]
    cases owed with
    | nil =>
      refine statement_end h ?_
      rw [hdrop, Indented.readStatement_nil]
    | cons closer owed =>
      refine statement_fault ?_
      rw [hdrop, Indented.readStatement_nil]
  · dsimp only at h hc ⊢
    rw [hc.get, hc.next]
    dsimp only
    by_cases hquote : isQuote c = true
    · rw [if_pos hquote]
      rcases hc.literal (!owed.contains ')') text hquote with
        ⟨rest, hfault, hnext⟩ | ⟨read, after, hread, htakes⟩
      · rw [orFault_error hfault]
        exact statement_fault (readStatement_of_fault hnext)
      · rw [orFault_ok hread]
        exact statement_again htakes (endingAt_eq_none (by simp) _ _) rfl
    rw [if_neg hquote]
    by_cases hcomment : c = '/' ∧ tail.head? = some '*'
    · rw [if_pos hcomment]
      obtain ⟨rfl, hstar⟩ := hcomment
      obtain ⟨rest, rfl⟩ := List.head?_eq_some_iff.1 hstar
      rcases hc.comment (!owed.contains ')') with
        ⟨rest, hfault, hnext⟩ | ⟨after, hafter, htakes⟩
      · rw [orFault_error hfault]
        exact statement_fault (readStatement_of_fault hnext)
      · rw [orFault_ok hafter]
        exact statement_again htakes (endingAt_eq_none (by simp) _ _) rfl
    rw [if_neg hcomment]
    by_cases hline : c = '/' ∧ tail.head? = some '/' ∧ ')' ∉ owed
    · rw [if_pos hline]
      obtain ⟨rfl, hslash, howed⟩ := hline
      obtain ⟨rest, rfl⟩ := List.head?_eq_some_iff.1 hslash
      obtain ⟨after, hafter, htakes⟩ := hc.line
      have hcomments : (!owed.contains ')') = true := by simpa using howed
      rw [hafter, Part.map_some]
      exact statement_again (hcomments ▸ htakes) (endingAt_eq_none (by simp) _ _) rfl
    rw [if_neg hline]
    by_cases hbrace : c = '#' ∧ tail.head? = some '{'
    · rw [if_pos hbrace]
      obtain ⟨rfl, hhead⟩ := hbrace
      obtain ⟨rest, rfl⟩ := List.head?_eq_some_iff.1 hhead
      have hd := reads_of_drop hc.rest
      have htakes : Takes (!owed.contains ')') source place .interpolation (place + 1 + 1) :=
        hd.placeOf_tail ▸ hc.takes rfl
      rw [hc.bump, hd.bump]
      exact statement_again htakes (endingAt_eq_none (by simp) _ _) rfl
    rw [if_neg hbrace]
    have hnext : next (!owed.contains ')') (c :: tail) = .ok (some (.char c, tail)) := by
      refine next_eq_char (Bool.not_eq_true _ ▸ hquote) (fun hslash => ⟨?_, ?_⟩) fun hhash => ?_
      · exact fun hhead => hcomment ⟨hslash, hhead⟩
      · exact fun howed hhead => hline ⟨hslash, hhead, by simpa using howed⟩
      · exact fun hhead => hbrace ⟨hhash, hhead⟩
    split
    · rw [hc.bump]
      refine statement_end hc.lt ?_
      rw [hc.drop, readStatement_semicolon, hc.rest]
    · rw [hc.bump]
      refine statement_end hc.lt ?_
      rw [hc.drop, readStatement_block, hc.rest]
    · refine statement_end h ?_
      rw [hc.drop, readStatement_ending hnext rfl]
    · rename_i hsemicolon hblock hclose
      have hend : endingAt owed (.char c) (c :: tail) tail = none := by
        refine endingAt_char ?_
        cases owed with
        | cons closer owed => exact .inl (List.cons_ne_nil _ _)
        | nil => exact .inr ⟨hsemicolon rfl, hblock rfl, hclose rfl⟩
      cases hnest : nest owed (.char c) with
      | error cause =>
        refine statement_fault ?_
        rw [hc.drop, readStatement_of_next hnext, hend, hnest]
      | ok owed' =>
        rw [hc.bump]
        refine statement_again (hc.placeOf_tail ▸ hc.takes hnext) ?_ hnest
        rw [hc.drop, hc.rest, hend]

theorem statement_progresses (scan : Scan) (h : scan.place ≤ source.length) :
    Progresses (statementTurn source) (·.place) source.length scan (statementValue source scan) :=
  progresses_of_value (fun _ => statementTurn_sound) (fun _ => id) h

theorem statementEnd_eq (h : place ≤ source.length) :
    statementEnd source place = .some ((readStatement [] (source.drop place)).map fun reading =>
      ⟨reading.text, reading.ending, placeOf source reading.rest⟩) :=
  (statement_progresses ⟨[], [], place⟩ h).ends

theorem readStatement_rest {reading : Reading} (hbrace : c ≠ '}')
    (h : readStatement [] (c :: tail) = .ok reading) : reading.rest <:+ tail :=
  suffix_tail (readStatement_suffix h) (readStatement_lt hbrace h)

/-- A statement takes at least one character where no closing brace stands. -/
theorem lt_of_statementEnd {ended : Ended} (hget : source[place]? = some c) (hbrace : c ≠ '}')
    (h : statementEnd source place = .some (.ok ended)) : place < ended.place := by
  obtain ⟨tail, hc⟩ := exists_reads_of_get hget
  rw [statementEnd_eq hc.lt.le, hc.drop] at h
  obtain ⟨reading, hreading, rfl⟩ := exists_of_map_eq_ok (Part.some_injective h)
  exact (hc.placeOf_suffix (readStatement_rest hbrace hreading)).1

/-- At a closing brace it takes none. -/
theorem statementEnd_closeBrace (hget : source[place]? = some '}') :
    statementEnd source place = .some (.ok ⟨[], .strayBrace, place⟩) := by
  obtain ⟨tail, hc⟩ := exists_reads_of_get hget
  have hnext : next (!([] : List Char).contains ')') ('}' :: tail) = .ok (some (.char '}', tail)) :=
    next_ordinary (by decide) tail
  rw [statementEnd_eq hc.lt.le, hc.drop, readStatement_ending hnext rfl, ← hc.drop, Except.map,
    placeOf_drop hc.lt.le]

/-- Where a statement ends at a closing brace, the brace is what remains. -/
theorem readStatement_strayBrace {reading : Reading}
    (h : readStatement owed text = .ok reading) (hending : reading.ending = .strayBrace) :
    reading.rest.head? = some '}' := by
  fun_induction readStatement owed text generalizing reading with
  | case1 => cases h
  | case2 =>
    cases h
    cases hending
  | case3 => cases h
  | case4 owed text lexeme rest hnext found hend =>
    cases h
    unfold endingAt at hend
    split at hend
    · cases hend
      cases hending
    · cases hend
      cases hending
    · cases hend
      obtain ⟨c, tail, rfl, -⟩ := next_suffix hnext
      rw [next_char hnext]
      rfl
    · cases hend
  | case5 => cases h
  | case6 owed text lexeme rest hnext _ owed' _ ih =>
    obtain ⟨more, hmore, rfl⟩ := exists_of_map_eq_ok h
    have hbrace := ih hmore
    exact hbrace hending

theorem get_of_statementEnd {ended : Ended} (hle : place ≤ source.length)
    (h : statementEnd source place = .some (.ok ended))
    (hending : ended.ending = .strayBrace) : source[ended.place]? = some '}' := by
  rw [statementEnd_eq hle] at h
  obtain ⟨reading, hreading, rfl⟩ := exists_of_map_eq_ok (Part.some_injective h)
  have hsuffix := (readStatement_suffix hreading).trans (List.drop_suffix place source)
  rw [← List.head?_drop, drop_placeOf hsuffix]
  exact readStatement_strayBrace hreading hending

end Statement

/-! ## Blocks -/

section Block

variable {source tail : List Char} {entry place : Nat} {c : Char}

/-- What follows the block of which a part was passed. -/
def blockValue (source : List Char) (entry : Nat) (inside : Inside) : Except Fault Nat :=
  (skipBlock (source.drop entry) ⟨(inside.braces - 1).toNat, inside.parens⟩
    (source.drop inside.place)).map (placeOf source)

/-- At least the brace of the block itself is open. -/
structure Inside.IsOpen (source : List Char) (inside : Inside) : Prop where
  braces : 1 ≤ inside.braces
  place : inside.place ≤ source.length

/-- A turn for blocks is sound if it keeps to the block and what follows the block stays as it
is. -/
abbrev IsBlockTurn (source : List Char) (entry : Nat) (inside : Inside) :
    Part (Except Fault Nat ⊕ Inside) → Prop :=
  IsSound (Inside.IsOpen source) (·.place)
    (fun inside result => result = blockValue source entry inside) inside

theorem skipBlock_of_fault {entry text : List Char} {depth : Depth} {fault : Fault}
    (h : next (depth.parens == 0) text = .error fault) :
    skipBlock entry depth text = .error fault := by
  rw [skipBlock]
  split
  · rename_i hnext
    cases hnext.symm.trans h
    rfl
  · rename_i hnext
    cases hnext.symm.trans h
  · rename_i hnext
    cases hnext.symm.trans h

theorem skipBlock_nil (entry : List Char) (depth : Depth) :
    skipBlock entry depth [] = .error ⟨.missingCloser '}', entry⟩ := by
  rw [skipBlock]
  split
  · rename_i hnext
    rw [next] at hnext
    cases hnext
  · rfl
  · rename_i hnext
    rw [next] at hnext
    cases hnext

theorem block_fault {braces : Int} {parens : Nat} {fault : Fault}
    (h : next (parens == 0) (source.drop place) = .error fault) :
    IsBlockTurn source entry ⟨braces, parens, place⟩ (.some (.inl (.error fault))) := by
  refine .stop ?_
  rw [blockValue, skipBlock_of_fault h]
  rfl

/-- What does not end the block is a turn of the loop. -/
theorem block_again {braces braces' : Int} {parens parens' after : Nat} (hbraces : 1 ≤ braces')
    (hlt : place < after) (hle : after ≤ source.length)
    (hskip : ∀ entry, skipBlock entry ⟨(braces - 1).toNat, parens⟩ (source.drop place) =
      skipBlock entry ⟨(braces' - 1).toNat, parens'⟩ (source.drop after)) :
    IsBlockTurn source entry ⟨braces, parens, place⟩ (.some (.inr ⟨braces', parens', after⟩)) := by
  refine .again_of_value ⟨hbraces, hle⟩ hlt ?_
  rw [blockValue, blockValue, hskip]

/-- So is a lexeme that leaves the depth as it is. -/
theorem block_lexeme {braces : Int} {parens after : Nat} {lexeme : Lexeme} (hbraces : 1 ≤ braces)
    (h : Takes (parens == 0) source place lexeme after)
    (hdepth : ∀ depth : Depth, depth.after? lexeme = some depth) :
    IsBlockTurn source entry ⟨braces, parens, place⟩ (.some (.inr ⟨braces, parens, after⟩)) :=
  block_again hbraces h.lt h.le fun _ => skipBlock_next h.next (hdepth _)

theorem blockTurn_sound {inside : Inside} (h : inside.IsOpen source) :
    IsBlockTurn source entry inside (blockTurn source entry inside) := by
  obtain ⟨braces, parens, place⟩ := inside
  obtain ⟨hbraces, hplace⟩ := h
  dsimp only at hbraces hplace
  unfold blockTurn
  rcases place_cases hplace with ⟨hget, hdrop, -⟩ | ⟨c, tail, hc⟩
  · dsimp only
    rw [hget]
    refine .stop ?_
    rw [blockValue, hdrop, skipBlock_nil]
    rfl
  · dsimp only
    rw [hc.get, hc.next]
    dsimp only
    by_cases hquote : isQuote c = true
    · rw [if_pos hquote]
      rcases hc.literal (parens == 0) [] hquote with
        ⟨rest, hfault, hnext⟩ | ⟨read, after, hread, htakes⟩
      · rw [orFault_error hfault]
        exact block_fault hnext
      · rw [orFault_ok hread]
        exact block_lexeme hbraces htakes fun _ => rfl
    rw [if_neg hquote]
    by_cases hcomment : c = '/' ∧ tail.head? = some '*'
    · rw [if_pos hcomment]
      obtain ⟨rfl, hstar⟩ := hcomment
      obtain ⟨rest, rfl⟩ := List.head?_eq_some_iff.1 hstar
      rcases hc.comment (parens == 0) with ⟨rest, hfault, hnext⟩ | ⟨after, hafter, htakes⟩
      · rw [orFault_error hfault]
        exact block_fault hnext
      · rw [orFault_ok hafter]
        exact block_lexeme hbraces htakes fun _ => rfl
    rw [if_neg hcomment]
    by_cases hline : c = '/' ∧ tail.head? = some '/' ∧ parens = 0
    · rw [if_pos hline]
      obtain ⟨rfl, hslash, rfl⟩ := hline
      obtain ⟨rest, rfl⟩ := List.head?_eq_some_iff.1 hslash
      obtain ⟨after, hafter, htakes⟩ := hc.line
      rw [hafter, Part.map_some]
      exact block_lexeme hbraces htakes fun _ => rfl
    rw [if_neg hline, hc.bump]
    have hlt : place < place + 1 := Nat.lt_succ_self place
    -- The opening of an interpolation is one lexeme for the depth, but two turns here.
    split
    · refine block_again hbraces hlt hc.lt fun entry => ?_
      rw [hc.drop, hc.rest, skipBlock_openParen]
    · refine block_again hbraces hlt hc.lt fun entry => ?_
      rw [hc.drop, hc.rest]
      exact skipBlock_next (next_ordinary (by decide) tail) rfl
    · refine block_again (by omega) hlt hc.lt fun entry => ?_
      have hdeeper : (braces + 1 - 1).toNat = (braces - 1).toNat + 1 := by omega
      rw [hc.drop, hc.rest, skipBlock_openBrace, hdeeper]
    · by_cases hlast : braces - 1 = 0
      · rw [if_pos hlast]
        refine .stop ?_
        have hown : (braces - 1).toNat = 0 := by omega
        rw [blockValue, hc.drop, hown, skipBlock_ownBrace, Except.map, hc.placeOf_tail]
      · rw [if_neg hlast]
        refine block_again (by omega) hlt hc.lt fun entry => ?_
        have hdeeper : (braces - 1).toNat = (braces - 1 - 1).toNat + 1 := by omega
        rw [hc.drop, hc.rest, hdeeper, skipBlock_closeBrace]
    · rename_i hopenParen hcloseParen hopenBrace hcloseBrace
      refine block_again hbraces hlt hc.lt fun entry => ?_
      rw [hc.drop, hc.rest]
      refine skipBlock_char ?_ fun hslash => ⟨?_, ?_⟩
      · rw [isQuote_iff, not_or] at hquote
        simp only [IsBodyChar, List.mem_cons, List.not_mem_nil, or_false, not_or]
        exact ⟨hquote.1, hquote.2, hopenParen, hcloseParen, hopenBrace, hcloseBrace⟩
      · exact fun hhead => hcomment ⟨hslash, hhead⟩
      · exact fun hparens hhead => hline ⟨hslash, hhead, beq_iff_eq.1 hparens⟩

theorem block_progresses (entry : Nat) (inside : Inside) (h : inside.IsOpen source) :
    Progresses (blockTurn source entry) (·.place) source.length inside
      (blockValue source entry inside) :=
  progresses_of_value (fun _ => blockTurn_sound) (fun _ => Inside.IsOpen.place) h

/-- The brace of the block itself is open as long as the loop goes on. -/
theorem le_braces (h : place ≤ source.length) {inside : Inside}
    (hpasses : Passes (blockTurn source entry) ⟨1, 0, place⟩ inside) : 1 ≤ inside.braces :=
  (hpasses.invariant (fun _ => blockTurn_sound) ⟨le_rfl, h⟩).braces

theorem blockEnd_eq (h : place ≤ source.length) :
    blockEnd source place = .some ((skipBlock (source.drop place) ⟨0, 0⟩ (source.drop place)).map
      (placeOf source)) :=
  (block_progresses place ⟨1, 0, place⟩ ⟨le_rfl, h⟩).ends

end Block

/-! ## Sheets -/

section Sheet

variable {source tail : List Char} {place : Nat} {c : Char}

theorem readItem_rest {chunk : Chunk} (hbrace : c ≠ '}') (h : readItem (c :: tail) = .ok chunk) :
    chunk.rest <:+ tail :=
  suffix_tail (readItem_suffix h) (readItem_lt hbrace h)

theorem itemEnd_eq (hbrace : c ≠ '}') (h : Reads source place c tail) :
    itemEnd source place = .some ((readItem (c :: tail)).map fun chunk =>
      ⟨chunk.text, chunk.hasBlock, placeOf source chunk.rest⟩) := by
  rw [itemEnd, statementEnd_eq h.lt.le, h.drop, Part.bind_some]
  cases hreading : readStatement [] (c :: tail) with
  | error fault =>
    rw [readItem, hreading]
    rfl
  | ok reading =>
    obtain ⟨-, hle, hdrop⟩ := h.placeOf_suffix (readStatement_rest hbrace hreading)
    dsimp only [Except.map]
    by_cases hblock : reading.ending = .block
    · rw [if_pos hblock, readItem_of_block hreading hblock, blockEnd_eq hle, hdrop, Part.map_some]
      cases skipBlock reading.rest ⟨0, 0⟩ reading.rest <;> rfl
    · rw [if_neg hblock, readItem_of_no_block hreading hblock]

/-- The rest of the sheet has the nodes that are read from the place on. -/
def SheetReads (source : List Char) (begun : Begun) (result : Except Fault (List Node)) : Prop :=
  result.mapError (·.locate source) =
    (nodesFrom source (source.drop begun.place)).map (begun.nodes ++ ·)

/-- A turn for sheets is sound if it keeps to the source and the nodes stay as they are. -/
abbrev IsSheetTurn (source : List Char) (begun : Begun) :
    Part (Except Fault (List Node) ⊕ Begun) → Prop :=
  IsSound (fun begun : Begun => begun.place ≤ source.length) (·.place) (SheetReads source) begun

/-- A statement is added behind filler. -/
theorem itemTurn_sound {nodes : List Node} {start : Nat} (hfrom : start ≤ place)
    (hfiller : skipFiller (source.drop start) = .ok (c :: tail)) (hbrace : c ≠ '}')
    (hc : Reads source place c tail) :
    IsSheetTurn source ⟨nodes, start⟩ (itemTurn source nodes place) := by
  have hnodes := nodesFrom_eq source (source.drop start)
  rw [hfiller] at hnodes
  dsimp only at hnodes
  rw [if_neg hbrace] at hnodes
  have hend := itemEnd_eq hbrace hc
  unfold itemTurn
  cases hitem : readItem (c :: tail) with
  | error fault =>
    rw [hitem] at hend hnodes
    rw [orFault_error hend]
    refine .stop ?_
    rw [SheetReads, hnodes]
    rfl
  | ok chunk =>
    obtain ⟨hlt, hle, hdrop⟩ := hc.placeOf_suffix (readItem_rest hbrace hitem)
    rw [hitem] at hend hnodes
    rw [orFault_ok hend, hc.drop]
    dsimp only at hnodes ⊢
    cases hread : Item.read (Text.trim chunk.text) chunk.hasBlock with
    | error cause =>
      rw [hread] at hnodes
      refine .stop ?_
      rw [SheetReads, hnodes]
      rfl
    | ok item? =>
      rw [hread] at hnodes
      cases item? with
      | none =>
        refine .again hle (hfrom.trans_lt hlt) fun result hresult => hresult.trans ?_
        rw [hdrop, hnodes]
      | some item =>
        refine .again hle (hfrom.trans_lt hlt) fun result hresult => hresult.trans ?_
        rw [hdrop, hnodes]
        cases nodesFrom source chunk.rest <;> simp [Except.map]

theorem sheetTurn_sound {begun : Begun} (h : begun.place ≤ source.length) :
    IsSheetTurn source begun (sheetTurn source begun) := by
  obtain ⟨nodes, start⟩ := begun
  obtain ⟨result, hgap, hprogresses⟩ := exists_gap_progresses h
  have hend : gapEnd source start = .some result := hprogresses.ends
  unfold sheetTurn
  dsimp only
  cases hgap with
  | fault hfiller =>
    rw [orFault_error hend]
    refine .stop ?_
    rw [SheetReads, nodesFrom_eq, hfiller]
    rfl
  | @place place hfrom hle hfiller hstop =>
    rw [orFault_ok hend]
    rcases place_cases hle with ⟨hget, hdrop, -⟩ | ⟨c, tail, hc⟩
    · rw [hget]
      refine .stop ?_
      rw [hdrop, skipFiller_nil] at hfiller
      rw [SheetReads, nodesFrom_eq, hfiller]
      simp [Except.map, Except.mapError]
    · have hstart : c ≠ ';' → skipFiller (source.drop start) = .ok (c :: tail) := by
        intro hne
        rw [hfiller, ← hc.drop]
        exact hstop.resolve_left fun hget => hne (Option.some.inj (hc.get.symm.trans hget))
      rw [hc.get]
      split
      · rename_i hnone
        cases hnone
      · rename_i hbrace
        cases hbrace
        refine .stop ?_
        rw [SheetReads, nodesFrom_eq, hstart (by decide), hc.drop]
        rfl
      · rename_i hsemicolon
        cases hsemicolon
        rw [hc.bump]
        refine .again hc.lt (Nat.lt_succ_of_le hfrom) fun result hresult => hresult.trans ?_
        rw [hc.drop, skipFiller_skip (.inr rfl), ← hc.rest] at hfiller
        exact congrArg _ (nodesFrom_congr hfiller.symm)
      · rename_i hbrace hsemicolon heq
        cases heq
        exact itemTurn_sound hfrom (hstart hsemicolon) hbrace hc

/-- The loop over a sheet ends with what the sheet spells. -/
theorem exists_sheet_progresses (source : List Char) :
    ∃ result, result.mapError (·.locate source) = parse source ∧
      Progresses (sheetTurn source) (·.place) source.length ⟨[], 0⟩ result := by
  obtain ⟨result, hreads, hprogresses⟩ : ∃ result, SheetReads source ⟨[], 0⟩ result ∧
      Progresses (sheetTurn source) (·.place) source.length ⟨[], 0⟩ result :=
    exists_progresses (fun _ => sheetTurn_sound) (fun _ => id) (Nat.zero_le _)
  exact ⟨result, hreads.trans (map_append_nil _), hprogresses⟩

end Sheet

end StyleConstants.Stylesheet.Braced
