import Mathlib.Data.List.TakeWhile
import StyleConstants.Proofs.Stylesheet.LineByLine

/-!
# What both dialects can say

A sheet whose statements each take one line can be written in both dialects: its headers with a
semicolon or with a block in braces, or on lines of their own with the block indented beneath. The
bodies of the blocks need not have anything in common, since none is read.

* `Entry`, `Entry.braced`, `Entry.indented`: a statement and its two spellings.
* `stripLine_of_readStatement`: a line that is a whole statement of one dialect is one of the other.
* `Entry.before`: what both readers make of an entry and what follows it.
* `dialects_agree`: both spellings of a sheet are read the same.
-/

namespace StyleConstants.Stylesheet

open Text (newlines isBlank)

/-! ## Entries -/

/-- A block as it is written in braces and as it is written indented. -/
structure Block where
  body : List Char
  lines : List (List Char)

/-- A statement that can be written in both dialects. -/
structure Entry where
  header : List Char
  block : Option Block

namespace Entry

/-- The entry in the dialect with braces. -/
def braced (entry : Entry) : List Char :=
  Braced.statementText entry.header (entry.block.map (·.body))

/-- The lines beneath the header in the indented dialect. -/
def beneath (entry : Entry) : List (List Char) :=
  match entry.block with
  | none => []
  | some block => block.lines

/-- The lines of the entry in the indented dialect. -/
def indented (entry : Entry) : List (List Char) := entry.header :: entry.beneath

/-- The entry can be written in both dialects: its header is a line of its own, and its block has a
body for braces and lines to stand beneath the header, at least one of them not blank. -/
structure IsValid (entry : Entry) : Prop where
  balanced : Balanced false entry.header
  oneLine : ∀ c ∈ entry.header, c ≠ '\n' ∧ c ≠ '\r'
  starts : ∃ c ∈ entry.header.head?, isBlank c = false
  body : ∀ block ∈ entry.block, BlockBody false block.body
  lines : ∀ block ∈ entry.block, ∀ line ∈ block.lines,
    '\n' ∉ line ∧ Indented.isNested line = true
  notBlank : ∀ block ∈ entry.block, ∃ line ∈ block.lines, Indented.isBlankLine line = false

/-- The item of the entry in front of what is read of the later ones, which start that many lines
further down. -/
def before (entry : Entry) (height : Nat) (later : Except Rejection (List Node)) :
    Except Rejection (List Node) :=
  match Item.read (Text.trim entry.header) entry.block.isSome with
  | .error cause => .error ⟨1, cause⟩
  | .ok none => shift height later
  | .ok (some item) => (shift height later).map (⟨1, item⟩ :: ·)

end Entry

/-- The sheet with these entries in the dialect with braces. -/
def bracedText (entries : List Entry) : List Char := Text.join '\n' (entries.map (·.braced))

/-- The sheet with these entries in the indented dialect. -/
def indentedText (entries : List Entry) : List Char := Text.join '\n' (entries.flatMap (·.indented))

/-- The same up to the numbers of lines. -/
def Agree : Except Rejection Stylesheet → Except Rejection Stylesheet → Prop
  | .ok a, .ok b => a.nodes.map (·.item) = b.nodes.map (·.item)
  | .error a, .error b => a.cause = b.cause
  | _, _ => False

variable {entry : Entry}

/-! ## Headers -/

theorem Entry.IsValid.exists_header (h : entry.IsValid) :
    ∃ c tail, entry.header = c :: tail ∧ isBlank c = false := by
  obtain ⟨c, hc, hblank⟩ := h.starts
  obtain ⟨tail, htail⟩ := List.head?_eq_some_iff.1 hc
  exact ⟨c, tail, htail, hblank⟩

/-- The last character that is not blank. -/
def lastVisible (text : List Char) : Option Char := text.reverse.find? (!isBlank ·)

theorem lastVisible_append (a b : List Char) :
    lastVisible (a ++ b) = (lastVisible b).or (lastVisible a) := by
  rw [lastVisible, List.reverse_append, List.find?_append, lastVisible, lastVisible]

theorem getLast?_trimEnd (text : List Char) : (Text.trimEnd text).getLast? = lastVisible text := by
  have hfind := List.find?_eq_head?_dropWhile_not (!isBlank ·) text.reverse
  simp only [Bool.not_not] at hfind
  rw [Text.trimEnd, List.getLast?_reverse, lastVisible, hfind]

theorem lastVisible_append_of_visible {c : Char} (hc : isBlank c = false) (front text : List Char) :
    lastVisible (front ++ c :: text) = (lastVisible text).or (some c) := by
  have hlast : lastVisible [c] = some c := by simp [lastVisible, hc]
  rw [List.append_cons, lastVisible_append, lastVisible_append, hlast, Option.some_or]

/-- The last character is one of the second text, or else one of the first. -/
theorem lastVisible_append_ne {a b : List Char} {d : Char} (ha : lastVisible a ≠ some d)
    (hb : lastVisible b ≠ some d) : lastVisible (a ++ b) ≠ some d := by
  rw [lastVisible_append]
  cases hlast : lastVisible b with
  | none => exact ha
  | some c =>
    rw [hlast] at hb
    exact hb

theorem lastVisible_ne_of_visible {c d : Char} (hblank : isBlank c = false) (hne : c ≠ d)
    (front : List Char) {text : List Char} (htext : lastVisible text ≠ some d) :
    lastVisible (front ++ c :: text) ≠ some d := by
  have hfront : lastVisible (front ++ [c]) ≠ some d := by
    rw [lastVisible_append_of_visible hblank]
    simpa [lastVisible] using hne
  rw [List.append_cons]
  exact lastVisible_append_ne hfront htext

/-- A semicolon stands in groups only, so it is not the last character. -/
theorem Balanced.lastVisible_ne {inGroup : Bool} {text : List Char} (h : Balanced inGroup text)
    (hgroup : inGroup = false) : lastVisible text ≠ some ';' := by
  induction h with
  | nil => simp [lastVisible]
  | @char inGroup c text hplain _ _ ih =>
    have hc : lastVisible [c] ≠ some ';' := by
      intro hlast
      have hmem := List.mem_of_find?_eq_some hlast
      obtain rfl : ';' = c := by simpa using hmem
      rcases hplain with hplain | ⟨hfalse, -⟩
      · exact absurd hplain (by decide)
      · exact absurd (hfalse.symm.trans hgroup) (by decide)
    rw [← List.singleton_append]
    exact lastVisible_append_ne hc (ih hgroup)
  | @literal inGroup quote body text hquote _ _ ih =>
    have hvisible : isBlank quote = false ∧ quote ≠ ';' := by
      rcases Lexeme.isQuote_iff.1 hquote with rfl | rfl <;> decide
    rw [← List.cons_append]
    exact lastVisible_ne_of_visible hvisible.1 hvisible.2 _ (ih hgroup)
  | @group inGroup opening inner text closer hopens _ _ _ ih =>
    have hvisible : isBlank closer = false ∧ closer ≠ ';' := by cases hopens <;> decide
    rw [← List.append_assoc]
    exact lastVisible_ne_of_visible hvisible.1 hvisible.2 _ (ih hgroup)

theorem Entry.IsValid.getLast?_trim_ne (h : entry.IsValid) :
    (Text.trim entry.header).getLast? ≠ some ';' := by
  obtain ⟨c, tail, hheader, hblank⟩ := h.exists_header
  have hstart : Text.trimStart entry.header = entry.header :=
    Text.trimStart_eq_self fun d hd => by
      rw [hheader] at hd
      cases hd
      exact hblank
  rw [Text.trim, hstart, getLast?_trimEnd]
  exact h.balanced.lastVisible_ne rfl

/-- In braces an entry is read, and then what follows it. -/
theorem Entry.IsValid.parse_braced (h : entry.IsValid) {gap : List Char} (hgap : Filler gap)
    (more : List Char) :
    Braced.parse (entry.braced ++ (gap ++ more)) =
      entry.before (newlines (entry.braced ++ gap)) (Braced.parse more) := by
  obtain ⟨c₀, tail₀, hheader, hblank⟩ := h.exists_header
  have hne : entry.header ≠ [] := by simp [hheader]
  have hhead : ∀ c ∈ entry.header.head?, isBlank c = false := by
    intro c hc
    rw [hheader] at hc
    cases hc
    exact hblank
  have hbody : ∀ body ∈ entry.block.map (·.body), BlockBody false body := by
    intro body hmem
    obtain ⟨block, hblock, rfl⟩ := Option.map_eq_some_iff.1 hmem
    exact h.body block hblock
  obtain ⟨c, tail, htext, hc, hstart⟩ := Braced.skipFiller_statementText h.balanced hne hhead
    (entry.block.map (·.body)) (gap ++ more)
  have hitem := Braced.readItem_statementText h.balanced hbody (gap ++ more)
  have hspacing : ∀ c ∈ (if (entry.block.map (·.body)).isSome then [' '] else []),
      isBlank c = true := by
    intro c hc
    split at hc
    · exact Text.isBlank_of_mem_space c hc
    · cases hc
  obtain ⟨source, hsource⟩ : ∃ source, source = entry.braced ++ (gap ++ more) := ⟨_, rfl⟩
  have hshift := Braced.nodesFrom_append_left (List.suffix_refl more) (entry.braced ++ gap)
  have hlater : Braced.nodesFrom source (gap ++ more) =
      shift (newlines (entry.braced ++ gap)) (Braced.parse more) := by
    rw [Braced.nodesFrom_congr (Braced.skipFiller_filler hgap more), hsource, ← List.append_assoc,
      hshift, Braced.parse]
  have hline : Text.lineOf source (c :: tail) = 1 := by
    rw [← htext, hsource]
    exact Text.lineOf_self _
  have hskip : Braced.skipFiller source = .ok (c :: tail) := by
    rw [hsource, Entry.braced, htext, hstart]
  rw [htext] at hitem
  rw [← hsource, Braced.parse, Braced.nodesFrom_eq, hskip]
  dsimp only
  rw [if_neg hc, hitem]
  dsimp only
  rw [Text.trim_append_blanks _ hspacing, Option.isSome_map, hlater, hline, Entry.before]
  cases Item.read (Text.trim entry.header) entry.block.isSome with
  | error cause =>
    have hplace : Fault.locate source ⟨cause, c :: tail⟩ = ⟨1, cause⟩ := by
      rw [← hline]
      rfl
    exact congrArg _ hplace
  | ok item => cases item <;> rfl

/-! ## Headers on lines of their own -/

namespace Indented

open Lexeme

theorem eq_nil_of_next_lineComment {lineComments : Bool} {line rest : List Char}
    (h : next lineComments line = .ok (some (.lineComment, rest))) (hline : '\n' ∉ line) :
    rest = [] := by
  have hafter : ∀ {text : List Char}, '\n' ∉ text → afterLine text = [] := by
    intro text htext
    refine List.dropWhile_eq_nil_iff.2 fun c hc => decide_eq_true ?_
    rintro rfl
    exact htext hc
  unfold next at h
  split at h
  · cases h
  · split at h <;> cases h
  · split at h
    · cases h
      exact hafter fun hmem => hline (by simp [hmem])
    · cases h
  · cases h
  · split at h
    · split at h <;> cases h
    · cases h

/-- The empty text is read if nothing is owed. -/
theorem readStatement_nil (owed : List Char) :
    Braced.readStatement owed [] =
      match owed with
      | [] => .ok ⟨[], .endOfText, []⟩
      | closer :: _ => .error ⟨.missingCloser closer, []⟩ := by
  rw [Braced.readStatement]
  split
  · rename_i hnext
    rw [next] at hnext
    cases hnext
  · cases owed <;> rfl
  · rename_i hnext
    rw [next] at hnext
    cases hnext

/-- A line that is a whole statement for the one reader is one for the other, up to blanks at the
end: a comment at the end of the line is a space for the first. -/
theorem stripLine_of_readStatement {owed line : List Char} {reading : Braced.Reading}
    (h : Braced.readStatement owed line = .ok reading) (hending : reading.ending = .endOfText)
    (hline : '\n' ∉ line) :
    ∃ text, stripLine owed line = .ok (text, []) ∧ SameFront reading.text text := by
  fun_induction Braced.readStatement owed line generalizing reading with
  | case1 => cases h
  | case2 line hnext =>
    cases h
    refine ⟨[], ?_, .refl _⟩
    rw [stripLine_eq, hnext]
  | case3 => cases h
  | case4 owed line lexeme rest hnext found hend =>
    cases h
    exact absurd hending (Braced.endingAt_ne_endOfText hend)
  | case5 => cases h
  | case6 owed line lexeme rest hnext hend owed' hnest ih =>
    obtain ⟨reading', hrest, rfl⟩ := exists_of_map_eq_ok h
    by_cases hlexeme : lexeme = .lineComment
    · subst hlexeme
      obtain rfl := eq_nil_of_next_lineComment hnext hline
      cases hnest
      rw [readStatement_nil] at hrest
      cases owed with
      | nil =>
        cases hrest
        refine ⟨[], ?_, [], [' '], [], Text.isBlank_of_mem_space, List.forall_mem_nil _, rfl, rfl⟩
        rw [stripLine_eq, hnext]
        exact if_pos rfl
      | cons closer owed => cases hrest
    · have hline' : '\n' ∉ rest := fun hmem => hline ((next_rest_suffix hnext).mem hmem)
      obtain ⟨text, htext, hsame⟩ := ih hrest hending hline'
      refine ⟨lexeme.rendered ++ text, ?_, hsame.append_left lexeme.rendered⟩
      rw [stripLine_eq, hnext]
      dsimp only
      rw [if_neg hlexeme, hnest]
      dsimp only
      rw [htext]
      rfl

theorem joinLines_header (h : entry.IsValid) (total : Nat) (rest : List (List Char)) :
    ∃ joined, joinLines total [] (entry.header :: rest) = .ok (joined, rest) ∧
      Text.trim joined = Text.trim entry.header := by
  have hread : Braced.readStatement [] entry.header = .ok ⟨entry.header, .endOfText, []⟩ := by
    have hbalanced : Braced.readStatement [] (entry.header ++ []) =
        (Braced.readStatement [] []).map (·.prepend entry.header) :=
      Braced.readStatement_balanced h.balanced (fun hfalse => nomatch hfalse)
        (fun _ hc => nomatch hc) (by simp)
    rw [List.append_nil, readStatement_nil] at hbalanced
    rw [hbalanced]
    simp [Except.map, Braced.Reading.prepend]
  have hline : '\n' ∉ entry.header := fun hmem => (h.oneLine _ hmem).1 rfl
  obtain ⟨text, htext, hsame⟩ := stripLine_of_readStatement hread rfl hline
  refine ⟨text ++ [' '], joinLines_last htext, ?_⟩
  rw [Text.trim_append_blanks text Text.isBlank_of_mem_space, ← hsame.trim_eq]

/-- A header starts a statement: it is neither blank nor indented, and no comment. -/
theorem header_starts (h : entry.IsValid) : isBlankLine entry.header = false ∧
    isIndented entry.header = false ∧ startsComment entry.header = false := by
  obtain ⟨c, tail, hheader, hblank⟩ := h.exists_header
  have hbalanced := h.balanced
  rw [hheader] at hbalanced ⊢
  obtain ⟨-, -, hslash⟩ := hbalanced.head_starts
  refine ⟨by simp [isBlankLine, hblank], ?_, ?_⟩
  · have hne : c ≠ ' ' ∧ c ≠ '\t' := by
      refine ⟨?_, ?_⟩ <;> rintro rfl <;> exact absurd hblank (by decide)
    simp [isIndented, hne]
  · have hstart : Text.trimStart (c :: tail) = c :: tail :=
      Text.trimStart_eq_self fun d hd => by cases hd; exact hblank
    have hcomment : ∀ d, d = '/' ∨ d = '*' → ['/', d].isPrefixOf (c :: tail) = false := by
      refine fun d hd => Bool.eq_false_iff.2 fun hprefix => ?_
      obtain ⟨rest, hrest⟩ := List.isPrefixOf_iff_prefix.1 hprefix
      cases hrest
      have hkeeps := hslash rfl d rfl
      exact hd.elim hkeeps.1 hkeeps.2
    rw [startsComment, hstart]
    exact Bool.or_eq_false_iff.2 ⟨hcomment '/' (.inl rfl), hcomment '*' (.inr rfl)⟩

/-- Lines that may stand in a block, and whether they make one. -/
structure IsBeneath (hasBlock : Bool) (lines : List (List Char)) : Prop where
  nested : ∀ line ∈ lines, isNested line = true
  notBlank : lines.any (!isBlankLine ·) = hasBlock

theorem takeWhile_dropWhile_block {block later : List (List Char)}
    (hblock : ∀ line ∈ block, isNested line = true)
    (hlater : ∀ line ∈ later.head?, isNested line = false) :
    (block ++ later).takeWhile isNested = block ∧ (block ++ later).dropWhile isNested = later := by
  rw [List.takeWhile_append_of_pos hblock, List.dropWhile_append_of_pos hblock]
  cases later with
  | nil => simp
  | cons line later =>
    have hline : ¬ isNested line = true := by rw [hlater line rfl]; decide
    rw [List.takeWhile_cons_of_neg hline, List.dropWhile_cons_of_neg hline, List.append_nil]
    exact ⟨rfl, rfl⟩

/-- An entry on lines of its own is read, and then what follows it. -/
theorem parse_of_lines (h : entry.IsValid) {text more : List Char} {block : List (List Char)}
    (hlines : Text.lines text = entry.header :: (block ++ Text.lines more))
    (hblock : IsBeneath entry.block.isSome block)
    (hmore : ∀ line ∈ (Text.lines more).head?, isNested line = false) :
    parse text = entry.before (block.length + 1) (parse more) := by
  obtain ⟨hblank, hindent, hcomment⟩ := header_starts h
  obtain ⟨joined, hjoin, htrim⟩ := joinLines_header h (block.length + 1 + (Text.lines more).length)
    (block ++ Text.lines more)
  obtain ⟨htake, hdrop⟩ := takeWhile_dropWhile_block hblock.nested hmore
  have htotal : (entry.header :: (block ++ Text.lines more)).length =
      block.length + 1 + (Text.lines more).length := by
    rw [List.length_cons, List.length_append]
    omega
  have hplace : block.length + 1 + (Text.lines more).length - (block ++ Text.lines more).length =
      1 := by
    rw [List.length_append]
    omega
  have hlater : nodesOfLines (block.length + 1 + (Text.lines more).length) (Text.lines more) =
      shift (block.length + 1) (parse more) :=
    nodesOfLines_shift (Nat.le_refl _) _
  rw [parse, hlines, htotal, nodesOfLines_cons, hblank, hindent, hcomment, hjoin]
  dsimp only
  rewrite [if_neg Bool.false_ne_true, if_neg Bool.false_ne_true, if_neg Bool.false_ne_true, htrim,
    if_neg h.getLast?_trim_ne, htake, hdrop, hblock.notBlank, hlater, hplace, Entry.before]
  cases Item.read (Text.trim entry.header) entry.block.isSome with
  | error cause => rfl
  | ok item => cases item <;> rfl

/-! ## The lines of an entry -/

theorem isNested_chomp (line : List Char) : isNested (Text.chomp line) = isNested line := by
  rcases Text.chomp_cases line with h | h
  · rw [h]
  · conv => rhs; rw [h, isNested_return]

theorem isBlankLine_chomp (line : List Char) :
    isBlankLine (Text.chomp line) = isBlankLine line := by
  rcases Text.chomp_cases line with h | h
  · rw [h]
  · conv => rhs; rw [h, isBlankLine_return]

theorem IsBeneath.nil : IsBeneath false [] where
  nested _ hline := nomatch hline
  notBlank := rfl

theorem IsBeneath.cons {hasBlock : Bool} {line : List Char} {lines : List (List Char)}
    (hline : isNested line = true) (h : IsBeneath hasBlock lines) :
    IsBeneath (!isBlankLine line || hasBlock) (line :: lines) where
  nested := List.forall_mem_cons.2 ⟨hline, h.nested⟩
  notBlank := by rw [List.any_cons, h.notBlank]

theorem isBeneath_map_chomp {pieces : List (List Char)}
    (h : ∀ piece ∈ pieces, isNested piece = true) :
    IsBeneath (pieces.any (!isBlankLine ·)) (pieces.map Text.chomp) where
  nested := by
    intro line hline
    obtain ⟨piece, hpiece, rfl⟩ := List.mem_map.1 hline
    rw [isNested_chomp]
    exact h piece hpiece
  notBlank := by
    rw [List.any_map]
    exact congrArg _ (funext fun line => congrArg _ (isBlankLine_chomp line))

/-- The last of the lines may not be one, if it is empty. -/
theorem isBeneath_lines_join {pieces : List (List Char)}
    (h : ∀ piece ∈ pieces, '\n' ∉ piece ∧ isNested piece = true) :
    IsBeneath (pieces.any (!isBlankLine ·)) (Text.lines (Text.join '\n' pieces)) := by
  induction pieces with
  | nil => exact .nil
  | cons piece others ih =>
    obtain ⟨hpiece, hnested⟩ := h piece List.mem_cons_self
    have hothers := ih fun other hmem => h other (List.mem_cons_of_mem piece hmem)
    cases others with
    | nil =>
      rw [Text.join]
      by_cases hempty : piece = []
      · subst hempty
        exact .nil
      · rw [Text.lines_last hpiece hempty]
        exact .cons hnested .nil
    | cons next others =>
      rw [Text.join, Text.lines_append_line hpiece, List.any_cons, ← isBlankLine_chomp piece]
      exact .cons ((isNested_chomp piece).trans hnested) hothers

theorem any_beneath (h : entry.IsValid) :
    entry.beneath.any (!isBlankLine ·) = entry.block.isSome := by
  rw [Entry.beneath]
  cases hblock : entry.block with
  | none => rfl
  | some block =>
    obtain ⟨line, hline, hblank⟩ := h.notBlank block hblock
    exact List.any_eq_true.2 ⟨line, hline, by rw [hblank]; rfl⟩

theorem mem_beneath (h : entry.IsValid) {line : List Char} (hline : line ∈ entry.beneath) :
    '\n' ∉ line ∧ isNested line = true := by
  rw [Entry.beneath] at hline
  cases hblock : entry.block with
  | none =>
    rw [hblock] at hline
    cases hline
  | some block =>
    rw [hblock] at hline
    exact h.lines block hblock line hline

/-- The lines of a sheet are the header of its first entry, the lines beneath and the lines of the
later entries. -/
theorem lines_indentedText (h : entry.IsValid) (rest : List Entry) :
    ∃ block, Text.lines (indentedText (entry :: rest)) =
        entry.header :: (block ++ Text.lines (indentedText rest)) ∧
      IsBeneath entry.block.isSome block ∧ (entry.block = none → block = []) := by
  have hheader : '\n' ∉ entry.header := fun hmem => (h.oneLine _ hmem).1 rfl
  have hchomp : Text.chomp entry.header = entry.header :=
    Text.chomp_eq_self fun hmem => (h.oneLine _ hmem).2 rfl
  have hnone : entry.block = none → entry.beneath = [] := by
    intro hblock
    rw [Entry.beneath, hblock]
  rw [indentedText, List.flatMap_cons, Entry.indented, ← any_beneath h]
  cases rest with
  | nil =>
    rw [List.flatMap_nil, List.append_nil, indentedText, List.flatMap_nil, Text.join, Text.lines]
    by_cases hbeneath : entry.beneath = []
    · refine ⟨[], ?_, ?_, fun _ => rfl⟩
      · obtain ⟨c, tail, hcons, -⟩ := h.exists_header
        rw [hbeneath, Text.join, Text.lines_last hheader (by simp [hcons])]
        rfl
      · rw [hbeneath]
        exact .nil
    · refine ⟨Text.lines (Text.join '\n' entry.beneath), ?_,
        isBeneath_lines_join fun _ => mem_beneath h, fun hblock => absurd (hnone hblock) hbeneath⟩
      rw [Text.join_cons_of_ne_nil _ _ hbeneath, Text.lines_append_line hheader, hchomp,
        List.append_nil]
  | cons next rest =>
    have hothers : (next :: rest).flatMap (·.indented) ≠ [] := by
      rw [List.flatMap_cons, Entry.indented]
      exact List.cons_ne_nil _ _
    have hpieces : ∀ piece ∈ entry.header :: entry.beneath, '\n' ∉ piece :=
      List.forall_mem_cons.2 ⟨hheader, fun _ hline => (mem_beneath h hline).1⟩
    refine ⟨entry.beneath.map Text.chomp, ?_,
      isBeneath_map_chomp fun _ hline => (mem_beneath h hline).2, ?_⟩
    · rw [Text.join_append _ (List.cons_ne_nil _ _) hothers,
        Text.lines_join_append (List.cons_ne_nil _ _) hpieces, List.map_cons, hchomp, indentedText]
      rfl
    · intro hblock
      rw [hnone hblock, List.map_nil]

/-- An entry on lines of its own is read, and then the later ones. -/
theorem parse_indentedText_cons (h : entry.IsValid) {rest : List Entry}
    (hrest : ∀ other ∈ rest, other.IsValid) :
    ∃ height, parse (indentedText (entry :: rest)) =
        entry.before height (parse (indentedText rest)) ∧ (entry.block = none → height = 1) := by
  obtain ⟨block, hlines, hblock, hnone⟩ := lines_indentedText h rest
  refine ⟨block.length + 1, parse_of_lines h hlines hblock ?_,
    fun hblock => by rw [hnone hblock]; rfl⟩
  cases rest with
  | nil => exact fun _ hline => nomatch hline
  | cons next rest =>
    have hnext := hrest next List.mem_cons_self
    obtain ⟨block', hlines', -⟩ := lines_indentedText hnext rest
    obtain ⟨hblank, hindent, -⟩ := header_starts hnext
    intro line hline
    rw [hlines'] at hline
    cases hline
    rw [isNested, hblank, hindent]
    rfl

end Indented

/-- In braces an entry is read, and then the later ones. -/
theorem Braced.parse_bracedText_cons (h : entry.IsValid) (rest : List Entry) :
    ∃ height, parse (bracedText (entry :: rest)) = entry.before height (parse (bracedText rest)) ∧
      (entry.block = none → height = 1) := by
  cases rest with
  | nil =>
    have hread := h.parse_braced .nil []
    have hend : parse [] = .ok [] := nodesFrom_end (by rw [skipFiller.eq_def])
    refine ⟨1, ?_, fun _ => rfl⟩
    rw [List.append_nil, List.append_nil, hend] at hread
    rw [bracedText, List.map_singleton, Text.join, hread, bracedText, List.map_nil, Text.join, hend]
    rfl
  | cons next rest =>
    have hread := h.parse_braced (.char (.inl (by decide)) .nil : Filler ['\n'])
      (bracedText (next :: rest))
    have hothers : (next :: rest).map (·.braced) ≠ [] := List.cons_ne_nil _ _
    refine ⟨newlines (entry.braced ++ ['\n']), ?_, ?_⟩
    · rw [bracedText, List.map_cons, Text.join_cons_of_ne_nil _ _ hothers]
      exact hread
    · intro hblock
      have hheader : newlines entry.header = 0 :=
        List.count_eq_zero.2 fun hmem => (h.oneLine _ hmem).1 rfl
      rw [Entry.braced, hblock, Option.map_none, statementText, Text.newlines_append,
        Text.newlines_append, hheader]
      rfl

/-! ## Agreement -/

theorem agree_before (entry : Entry) (height other : Nat) {a b : Except Rejection (List Node)}
    (h : Agree (a.map (⟨·⟩)) (b.map (⟨·⟩))) :
    Agree ((entry.before height a).map (⟨·⟩)) ((entry.before other b).map (⟨·⟩)) := by
  have hshift : ∀ (lines : Nat) (nodes : List Node),
      (nodes.map (·.shift lines)).map (·.item) = nodes.map (·.item) := by
    intro lines nodes
    rw [List.map_map]
    rfl
  rw [Entry.before, Entry.before]
  cases Item.read (Text.trim entry.header) entry.block.isSome with
  | error cause => rfl
  | ok item =>
    cases a with
    | error rejection =>
      cases b with
      | error rejection' => cases item <;> exact h
      | ok nodes' => cases h
    | ok nodes =>
      cases b with
      | error rejection' => cases h
      | ok nodes' =>
        have hitems : (nodes.map (·.shift height)).map (·.item) =
            (nodes'.map (·.shift other)).map (·.item) := by
          rw [hshift, hshift]
          exact h
        cases item with
        | none => exact hitems
        | some item => exact congrArg (item :: ·) hitems

theorem nodes_agree {entries : List Entry} (h : ∀ entry ∈ entries, entry.IsValid) :
    Agree ((Braced.parse (bracedText entries)).map (⟨·⟩))
      ((Indented.parse (indentedText entries)).map (⟨·⟩)) ∧
    ((∀ entry ∈ entries, entry.block = none) →
      Braced.parse (bracedText entries) = Indented.parse (indentedText entries)) := by
  induction entries with
  | nil =>
    have hbraced : Braced.parse (bracedText []) = .ok [] :=
      Braced.nodesFrom_end (by rw [bracedText, List.map_nil, Text.join, Braced.skipFiller.eq_def])
    have hindented : Indented.parse (indentedText []) = .ok [] := by
      rw [Indented.parse, indentedText, List.flatMap_nil, Text.join, Text.lines,
        Indented.nodesOfLines]
    rw [hbraced, hindented]
    exact ⟨rfl, fun _ => rfl⟩
  | cons entry rest ih =>
    have hentry := h entry List.mem_cons_self
    have hrest : ∀ other ∈ rest, other.IsValid :=
      fun other hother => h other (List.mem_cons_of_mem entry hother)
    obtain ⟨hagree, hsame⟩ := ih hrest
    obtain ⟨height, hbraced, hheight⟩ := Braced.parse_bracedText_cons hentry rest
    obtain ⟨other, hindented, hother⟩ := Indented.parse_indentedText_cons hentry hrest
    rw [hbraced, hindented]
    refine ⟨agree_before entry height other hagree, fun hnone => ?_⟩
    have hblock := hnone entry List.mem_cons_self
    rw [hheight hblock, hother hblock,
      hsame fun other hother => hnone other (List.mem_cons_of_mem entry hother)]

/-- **The dialects agree.** A sheet that can be written in both is read the same up to the numbers
of the lines: the items are the same, or both spellings are rejected for the same cause. Without
blocks the lines are the same as well. -/
theorem dialects_agree {entries : List Entry} (h : ∀ entry ∈ entries, entry.IsValid) :
    Agree (parse .braced (bracedText entries)) (parse .indented (indentedText entries)) ∧
    ((∀ entry ∈ entries, entry.block = none) →
      parse .braced (bracedText entries) = parse .indented (indentedText entries)) := by
  obtain ⟨hagree, hsame⟩ := nodes_agree h
  exact ⟨hagree, fun hnone => by rw [parse, parse, hsame hnone]⟩

/-- A declaration, and a rule with an empty line after its block. -/
def twoEntries : List Entry :=
  [⟨"$a: 1".toList, none⟩, ⟨"p".toList, some ⟨"b".toList, [" b".toList, []]⟩⟩]

theorem twoEntries_valid : ∀ entry ∈ twoEntries, entry.IsValid := by
  have hdeclaration : Balanced false ("$a: 1".toList ++ []) :=
    .chars_append (Text.forall_mem_of_all (by decide)) .nil
  have hrule : Balanced false ("p".toList ++ []) :=
    .chars_append (Text.forall_mem_of_all (by decide)) .nil
  intro entry hentry
  rcases List.mem_cons.1 hentry with rfl | hentry
  · exact ⟨hdeclaration, Text.forall_mem_of_all (by decide), ⟨'$', rfl, by decide⟩,
      fun _ hblock => (nomatch hblock), fun _ hblock => (nomatch hblock),
      fun _ hblock => (nomatch hblock)⟩
  · obtain rfl := List.mem_singleton.1 hentry
    refine ⟨hrule, Text.forall_mem_of_all (by decide), ⟨'p', rfl, by decide⟩, ?_, ?_, ?_⟩
    · intro block hblock
      cases hblock
      exact .char (by decide) (fun h => absurd h (by decide)) .nil
    · intro block hblock
      cases hblock
      intro line hline
      rcases List.mem_cons.1 hline with rfl | hline
      · decide
      · obtain rfl := List.mem_singleton.1 hline
        decide
    · intro block hblock
      cases hblock
      exact ⟨" b".toList, List.mem_cons_self, by decide⟩

theorem dialects_agree_twoEntries :
    (∀ entry ∈ twoEntries, entry.IsValid) ∧
      Agree (parse .braced "$a: 1;\np \x7bb\x7d".toList)
        (parse .indented "$a: 1\np\n b\n".toList) :=
  ⟨twoEntries_valid, (dialects_agree twoEntries_valid).1⟩

end StyleConstants.Stylesheet
