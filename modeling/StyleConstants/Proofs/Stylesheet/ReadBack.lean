import StyleConstants.Proofs.Stylesheet.Written
import StyleConstants.Stylesheet.Parse

/-!
# Sheets are read back

A sheet is written as its items in order, with filler in front of each and after the last. The
reader gives back these items and nothing else, each with the line on which it starts.

* `nodesFrom_item`: one step of the reader, from one statement to what follows it.
* `nodesFrom_fault`: a statement that cannot be read ends the reading.
* `parse_sheetText`: a written sheet is read back.
-/

namespace StyleConstants.Stylesheet

open Text (IsPlain isBlank newlines)

/-- Balanced text starts like a statement if it does not start with a blank. -/
theorem Balanced.head_starts {c : Char} {text : List Char} (h : Balanced false (c :: text)) :
    c ≠ ';' ∧ c ≠ '}' ∧ (c = '/' → KeepsSlash text) := by
  obtain ⟨whole, hwhole⟩ : ∃ whole, whole = c :: text := ⟨_, rfl⟩
  rw [← hwhole] at h
  cases h with
  | nil => cases hwhole
  | char hplain hslash _ =>
    cases hwhole
    have hplain' : IsPlain c := hplain.resolve_right fun hfalse => nomatch hfalse.1
    refine ⟨?_, ?_, hslash⟩
    · rintro rfl
      exact absurd hplain' (by decide)
    · rintro rfl
      exact absurd hplain' (by decide)
  | literal hquote _ _ =>
    cases hwhole
    rcases Lexeme.isQuote_iff.1 hquote with rfl | rfl
    · exact ⟨by decide, by decide, fun hc => absurd hc (by decide)⟩
    · exact ⟨by decide, by decide, fun hc => absurd hc (by decide)⟩
  | group hopens _ _ =>
    cases hopens <;> cases hwhole <;>
      exact ⟨by decide, by decide, fun hc => absurd hc (by decide)⟩

/-- A statement starts where filler ends. -/
theorem Braced.skipFiller_statementText {header : List Char} (hheader : Balanced false header)
    (hne : header ≠ []) (hblank : ∀ c ∈ header.head?, isBlank c = false)
    (body? : Option (List Char)) (rest : List Char) :
    ∃ c tail, statementText header body? ++ rest = c :: tail ∧ c ≠ '}' ∧
      skipFiller (c :: tail) = .ok (c :: tail) := by
  obtain ⟨more, htext, hmore⟩ : ∃ more, statementText header body? = header ++ more ∧
      KeepsSlash (more ++ rest) := by
    cases body? with
    | none => exact ⟨[';'], rfl, .cons (by decide) _⟩
    | some body => exact ⟨' ' :: '{' :: (body ++ ['}']), rfl, .cons (by decide) _⟩
  cases header with
  | nil => exact absurd rfl hne
  | cons c tail =>
    obtain ⟨hsemicolon, hbrace, hslash⟩ := hheader.head_starts
    refine ⟨c, tail ++ (more ++ rest), by rw [htext]; simp, hbrace, ?_⟩
    exact skipFiller_start (hblank c rfl) hsemicolon fun hc => (hslash hc).append hmore

/-- A written item starts where filler ends. -/
theorem Written.skipFiller_text {written : Written} (h : written.IsValid) (rest : List Char) :
    ∃ c tail, written.text ++ rest = c :: tail ∧ c ≠ '}' ∧
      Braced.skipFiller (c :: tail) = .ok (c :: tail) := by
  rw [text_eq]
  exact Braced.skipFiller_statementText (balanced_header h) (header_ne_nil h)
    (isBlank_head_header h) _ rest

namespace Braced

/-! ## Steps of the reader -/

theorem nodesFrom_end {source text : List Char} (hfiller : skipFiller text = .ok []) :
    nodesFrom source text = .ok [] := by
  rw [nodesFrom]
  split
  · rename_i h
    cases h.symm.trans hfiller
  · rfl
  · rename_i h
    cases h.symm.trans hfiller

theorem nodesFrom_item {source text tail : List Char} {c : Char} {chunk : Chunk} {item : Item}
    (hfiller : skipFiller text = .ok (c :: tail)) (hc : c ≠ '}')
    (hitem : readItem (c :: tail) = .ok chunk)
    (hread : Item.read (Text.trim chunk.text) chunk.hasBlock = .ok (some item)) :
    nodesFrom source text =
      (nodesFrom source chunk.rest).map (⟨Text.lineOf source (c :: tail), item⟩ :: ·) := by
  rw [nodesFrom]
  split
  · rename_i h
    cases h.symm.trans hfiller
  · rename_i h
    cases h.symm.trans hfiller
  · rename_i h
    cases h.symm.trans hfiller
    rw [dif_neg hc]
    split
    · rename_i h
      cases h.symm.trans hitem
    · rename_i h
      cases h.symm.trans hitem
      rw [hread]

theorem nodesFrom_fault {source text tail : List Char} {c : Char} {fault : Fault}
    (hfiller : skipFiller text = .ok (c :: tail)) (hc : c ≠ '}')
    (hitem : readItem (c :: tail) = .error fault) :
    nodesFrom source text = .error (fault.locate source) := by
  rw [nodesFrom]
  split
  · rename_i h
    cases h.symm.trans hfiller
  · rename_i h
    cases h.symm.trans hfiller
  · rename_i h
    cases h.symm.trans hfiller
    rw [dif_neg hc]
    split
    · rename_i h
      cases h.symm.trans hitem
      rfl
    · rename_i h
      cases h.symm.trans hitem

/-! ## Whole sheets -/

/-- The text of a sheet up to the end of its last item: each item with the filler in front. -/
def sheetText (pieces : List (List Char × Written)) : List Char :=
  pieces.flatMap fun piece => piece.1 ++ piece.2.text

/-- The nodes of such a sheet that starts on this line. -/
def nodesAt (line : Nat) : List (List Char × Written) → List Node
  | [] => []
  | (filler, written) :: pieces =>
    let start := line + newlines filler
    ⟨start, written.item⟩ :: nodesAt (start + newlines written.text) pieces

/-- What was passed of the sheet only counts for the lines of the nodes that follow. -/
theorem nodesFrom_sheetText {pieces : List (List Char × Written)} {last : List Char}
    (hpieces : ∀ piece ∈ pieces, Filler piece.1 ∧ piece.2.IsValid) (hlast : Filler last)
    (passed : List Char) :
    nodesFrom (passed ++ (sheetText pieces ++ last)) (sheetText pieces ++ last) =
      .ok (nodesAt (1 + newlines passed) pieces) := by
  induction pieces generalizing passed with
  | nil =>
    have hend : skipFiller (sheetText [] ++ last) = .ok [] := by
      have hskip := skipFiller_filler hlast []
      rw [List.append_nil] at hskip
      rw [sheetText, List.flatMap_nil, List.nil_append, hskip, skipFiller.eq_def]
    exact nodesFrom_end hend
  | cons piece pieces ih =>
    obtain ⟨filler, written⟩ := piece
    obtain ⟨hfiller, hvalid⟩ := hpieces (filler, written) List.mem_cons_self
    have hothers : ∀ other ∈ pieces, Filler other.1 ∧ other.2.IsValid :=
      fun other hother => hpieces other (List.mem_cons_of_mem _ hother)
    obtain ⟨rest, hrest⟩ : ∃ rest, rest = sheetText pieces ++ last := ⟨_, rfl⟩
    have htext : sheetText ((filler, written) :: pieces) ++ last =
        filler ++ (written.text ++ rest) := by
      rw [hrest]
      simp [sheetText]
    have hih := ih hothers (passed ++ filler ++ written.text)
    rw [← hrest] at hih
    obtain ⟨c, tail, hstart, hc, hskip⟩ := Written.skipFiller_text hvalid rest
    have hitem := Written.readItem_text hvalid rest
    have hskipped : skipFiller (filler ++ (written.text ++ rest)) = .ok (c :: tail) := by
      rw [skipFiller_filler hfiller, hstart, hskip]
    rw [hstart] at hitem
    have hsource : passed ++ (filler ++ (written.text ++ rest)) =
        passed ++ filler ++ written.text ++ rest := by
      simp only [List.append_assoc]
    have hline : Text.lineOf (passed ++ filler ++ written.text ++ rest) (c :: tail) =
        1 + newlines passed + newlines filler := by
      rw [List.append_assoc (passed ++ filler), hstart, Text.lineOf_append, Text.newlines_append,
        Nat.add_assoc]
    rw [htext, nodesFrom_item hskipped hc hitem (Written.read_header hvalid), hsource, hih, hline,
      nodesAt, Text.newlines_append, Text.newlines_append]
    simp only [Except.map, Nat.add_assoc]

end Braced

/-- **Written sheets are read back.** Declarations with flags, directives, rules and other
statements, in any order and number, come back with their names, values, flags and blocks and with
the lines on which they start, whatever blanks, semicolons and comments stand between them. -/
theorem parse_sheetText {pieces : List (List Char × Written)} {last : List Char}
    (hpieces : ∀ piece ∈ pieces, Filler piece.1 ∧ piece.2.IsValid) (hlast : Filler last) :
    parse .braced (Braced.sheetText pieces ++ last) = .ok ⟨Braced.nodesAt 1 pieces⟩ := by
  have hnodes := Braced.nodesFrom_sheetText hpieces hlast []
  rw [List.nil_append] at hnodes
  have hparse : Braced.parse (Braced.sheetText pieces ++ last) = .ok (Braced.nodesAt 1 pieces) :=
    hnodes
  rw [parse, hparse]
  rfl

/-- A declaration after a comment, and a rule. -/
def smallSheet : List (List Char × Written) :=
  [('/' :: '/' :: ("start".toList ++ ['\n']),
      .declaration "a".toList "1px".toList [([' '], .default)]),
    (['\n'], .rule "p".toList [' '])]

theorem smallSheet_valid : ∀ piece ∈ smallSheet, Filler piece.1 ∧ piece.2.IsValid := by
  have hvalue : Balanced false ("1px".toList ++ []) :=
    .chars_append (Text.forall_mem_of_all (by decide)) .nil
  have hprelude : Balanced false ("p".toList ++ []) :=
    .chars_append (Text.forall_mem_of_all (by decide)) .nil
  have hvalueEnds : Text.IsTrimmed "1px".toList :=
    Text.isTrimmed_of_ends (by decide) (by decide)
  have hpreludeEnds : Text.IsTrimmed "p".toList :=
    Text.isTrimmed_of_ends (by decide) (by decide)
  have hflag : ∀ flag : Flag, ¬ flag.text <:+ "1px".toList := by
    intro flag
    cases flag <;> decide
  have hblanks : ∀ flag ∈ [([' '], Flag.default)], ∀ c ∈ flag.1, isBlank c = true := by
    intro flag hflag
    obtain rfl := List.mem_singleton.1 hflag
    exact Text.isBlank_of_mem_space
  intro piece hpiece
  rcases List.mem_cons.1 hpiece with rfl | hpiece
  · exact ⟨.lineComment (by decide) .nil, by decide, ⟨⟨hvalue, hvalueEnds⟩, by decide, hflag⟩,
      hblanks⟩
  · obtain rfl := List.mem_singleton.1 hpiece
    exact ⟨.char (by decide) .nil, ⟨⟨hprelude, hpreludeEnds⟩, by decide, by decide⟩,
      .char (by decide) (fun h => absurd h (by decide)) .nil⟩

theorem parse_smallSheet :
    parse .braced "//start\n$a: 1px !default;\np \x7b \x7d".toList =
      .ok ⟨[⟨2, .variable ⟨"a", "1px", true, false⟩⟩, ⟨3, .rule "p"⟩]⟩ :=
  parse_sheetText smallSheet_valid .nil

end StyleConstants.Stylesheet
