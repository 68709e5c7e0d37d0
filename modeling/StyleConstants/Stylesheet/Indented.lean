import StyleConstants.Stylesheet.Lexeme
import StyleConstants.Stylesheet.Statement

/-!
# The indented dialect

A statement is a line, continued over the next lines while brackets are open; the indented lines
beneath it are its block. A comment owns the lines indented beneath it. Lines are counted from what
remains of them.

* `joinLines_suffix`, `joinLines_lt`: a statement takes whole lines, at least one.
-/

namespace StyleConstants.Stylesheet.Indented

open Lexeme

/-- A line without its indentation and its comments, read on while the closers `owed` are missing,
and the closers owed at its end. A block comment that does not end on the line runs to its end. -/
def stripLine (owed line : List Char) : Except Cause (List Char × List Char) :=
  match _h : next (!owed.contains ')') line with
  | .error ⟨.openComment, _⟩ => .ok ([], owed)
  | .error ⟨cause, _⟩ => .error cause
  | .ok none => .ok ([], owed)
  | .ok (some (.lineComment, _)) => .ok ([], owed)
  | .ok (some (lexeme, rest)) =>
    match lexeme.nest owed with
    | .error cause => .error cause
    | .ok owed => (stripLine owed rest).map fun (text, owed) => (lexeme.rendered ++ text, owed)
termination_by line.length
decreasing_by exact next_lt _h

/-- Whether the line holds no more than blanks. -/
def isBlankLine (line : List Char) : Bool := line.all Text.isBlank

/-- Whether the line starts with a space or a tab. -/
def isIndented (line : List Char) : Bool := line.head? == some ' ' || line.head? == some '\t'

/-- Whether the line may stand in a block beneath a statement. -/
def isNested (line : List Char) : Bool := isBlankLine line || isIndented line

/-- Whether a comment starts at the first character of the line that is not blank. -/
def startsComment (line : List Char) : Bool :=
  let text := Text.trimStart line
  "//".toList.isPrefixOf text || "/*".toList.isPrefixOf text

/-- The text of the statement that takes the first line and those that its brackets keep open, a
space after each, and the lines that follow. Of all lines there are `total`. -/
def joinLines (total : Nat) (owed : List Char) :
    List (List Char) → Except Rejection (List Char × List (List Char))
  | [] => .error ⟨total, .missingCloser (owed.headD ')')⟩
  | line :: rest =>
    match stripLine owed line with
    | .error cause => .error ⟨total - rest.length, cause⟩
    | .ok (text, []) => .ok (text ++ [' '], rest)
    | .ok (text, owed) =>
      (joinLines total owed rest).map fun (more, after) => (text ++ ' ' :: more, after)

theorem joinLines_suffix {total : Nat} {owed text : List Char} {lines after : List (List Char)}
    (h : joinLines total owed lines = .ok (text, after)) :
    ∃ line rest, lines = line :: rest ∧ after <:+ rest := by
  fun_induction joinLines total owed lines generalizing text with
  | case1 => cases h
  | case2 => cases h
  | case3 => cases h; exact ⟨_, _, rfl, List.suffix_refl _⟩
  | case4 owed line rest text' owed' _ _ ih =>
    cases hmore : joinLines total owed' rest with
    | error rejection => simp [hmore, Except.map] at h
    | ok pair =>
      simp only [hmore, Except.map, Except.ok.injEq, Prod.mk.injEq] at h
      obtain ⟨_, rfl⟩ := h
      obtain ⟨line', rest', rfl, hsuffix⟩ := ih hmore
      exact ⟨line, _, rfl, hsuffix.trans (List.suffix_cons line' rest')⟩

theorem joinLines_lt {total : Nat} {owed text : List Char} {lines after : List (List Char)}
    (h : joinLines total owed lines = .ok (text, after)) : after.length < lines.length := by
  obtain ⟨line, rest, rfl, hsuffix⟩ := joinLines_suffix h
  exact Nat.lt_succ_of_le hsuffix.length_le

/-- The nodes of the last lines of a sheet of `total` lines. -/
def nodesOfLines (total : Nat) : List (List Char) → Except Rejection (List Node)
  | [] => .ok []
  | line :: rest =>
    if isBlankLine line then nodesOfLines total rest
    else if isIndented line then .error ⟨total - rest.length, .leadingIndent⟩
    else if startsComment line then nodesOfLines total (rest.dropWhile isNested)
    else
      match _h : joinLines total [] (line :: rest) with
      | .error rejection => .error rejection
      | .ok (joined, after) =>
        let text := Text.trim joined
        let hasBlock := (after.takeWhile isNested).any (!isBlankLine ·)
        if text.getLast? = some ';' then .error ⟨total - rest.length, .semicolon⟩
        else
          match Item.read text hasBlock with
          | .error cause => .error ⟨total - rest.length, cause⟩
          | .ok none => nodesOfLines total (after.dropWhile isNested)
          | .ok (some item) =>
            (nodesOfLines total (after.dropWhile isNested)).map (⟨total - rest.length, item⟩ :: ·)
termination_by lines => lines.length
decreasing_by
  · exact Nat.lt_succ_self _
  · exact Nat.lt_succ_of_le (List.dropWhile_suffix _).length_le
  · exact Nat.lt_of_le_of_lt (List.dropWhile_suffix _).length_le (joinLines_lt _h)
  · exact Nat.lt_of_le_of_lt (List.dropWhile_suffix _).length_le (joinLines_lt _h)

/-- The nodes of a sheet written with indentation. -/
def parse (source : List Char) : Except Rejection (List Node) :=
  let lines := Text.lines source
  nodesOfLines lines.length lines

end StyleConstants.Stylesheet.Indented
