import StyleConstants.Stylesheet.Lexeme
import StyleConstants.Stylesheet.Statement

/-!
# The dialect with braces and semicolons

A statement runs to a semicolon, to the opening brace of its block or to the end of the text,
whichever comes first outside its brackets. Blocks are checked for balance and skipped.

* `skipFiller_suffix`, `readStatement_suffix`, `skipBlock_suffix`: what remains is an end part of
  what was given.
* `readItem_lt`: a statement takes at least one character, unless it would start with a closing
  brace, so reading a sheet ends.
-/

namespace StyleConstants.Stylesheet.Braced

open Lexeme

/-- What follows the blanks, comments and semicolons at the start of the text. -/
def skipFiller : List Char → Except Fault (List Char)
  | [] => .ok []
  | c :: rest =>
    if Text.isBlank c || c == ';' then skipFiller rest
    else if c = '/' ∧ rest.head? = some '/' then skipFiller (afterLine rest)
    else if c = '/' ∧ rest.head? = some '*' then
      match _h : closeComment rest.tail with
      | none => .error ⟨.openComment, c :: rest⟩
      | some after => skipFiller after
    else .ok (c :: rest)
termination_by text => text.length
decreasing_by
  · simp
  · exact Nat.lt_succ_of_le (afterLine_suffix rest).length_le
  · exact Nat.lt_succ_of_le
      (((closeComment_suffix _h).trans (List.tail_suffix rest)).length_le)

/-- What ends a statement: a semicolon, the brace that opens its block, a closing brace that
belongs to no bracket of the statement, or the end of the text. -/
inductive Ending where
  | semicolon
  | block
  | strayBrace
  | endOfText
  deriving DecidableEq, Repr

/-- A statement as read: its text with comments as spaces, what ended it, and what follows. A
semicolon and an opening brace are passed, a closing brace is not. -/
structure Reading where
  text : List Char
  ending : Ending
  rest : List Char
  deriving DecidableEq, Repr

/-- The reading with more text in front. -/
def Reading.prepend (text : List Char) (reading : Reading) : Reading :=
  { reading with text := text ++ reading.text }

/-- How the statement ends if this lexeme comes next, read from `here` and followed by `rest`. -/
def endingAt (owed : List Char) (lexeme : Lexeme) (here rest : List Char) : Option Reading :=
  match owed, lexeme with
  | [], .char ';' => some ⟨[], .semicolon, rest⟩
  | [], .char '{' => some ⟨[], .block, rest⟩
  | [], .char '}' => some ⟨[], .strayBrace, here⟩
  | _, _ => none

/-- Reads a statement on, while the closers `owed` are missing. A line comment is one only outside
parentheses, so that a URL may stand in them. -/
def readStatement (owed text : List Char) : Except Fault Reading :=
  match _h : next (!owed.contains ')') text with
  | .error fault => .error fault
  | .ok none =>
    match owed with
    | [] => .ok ⟨[], .endOfText, []⟩
    | closer :: _ => .error ⟨.missingCloser closer, []⟩
  | .ok (some (lexeme, rest)) =>
    match endingAt owed lexeme text rest with
    | some reading => .ok reading
    | none =>
      match lexeme.nest owed with
      | .error cause => .error ⟨cause, text⟩
      | .ok owed => (readStatement owed rest).map (·.prepend lexeme.rendered)
termination_by text.length
decreasing_by exact next_lt _h

/-- How many inner blocks and how many parentheses are open inside a block. -/
structure Depth where
  braces : Nat
  parens : Nat
  deriving DecidableEq, Repr

/-- The depth after one more lexeme; none at the brace that closes the block itself. A closing
parenthesis too many is ignored. -/
def Depth.after? (depth : Depth) : Lexeme → Option Depth
  | .interpolation => some ⟨depth.braces + 1, depth.parens⟩
  | .char '{' => some ⟨depth.braces + 1, depth.parens⟩
  | .char '}' =>
    match depth.braces with
    | 0 => none
    | inner + 1 => some ⟨inner, depth.parens⟩
  | .char '(' => some ⟨depth.braces, depth.parens + 1⟩
  | .char ')' => some ⟨depth.braces, depth.parens - 1⟩
  | _ => some depth

/-- Skips the body of a block that was entered at `entry`: what follows its closing brace. -/
def skipBlock (entry : List Char) (depth : Depth) (text : List Char) : Except Fault (List Char) :=
  match _h : next (depth.parens == 0) text with
  | .error fault => .error fault
  | .ok none => .error ⟨.missingCloser '}', entry⟩
  | .ok (some (lexeme, rest)) =>
    match depth.after? lexeme with
    | none => .ok rest
    | some depth => skipBlock entry depth rest
termination_by text.length
decreasing_by exact next_lt _h

/-- A statement with its block, if it has one, and what follows both. -/
structure Chunk where
  text : List Char
  hasBlock : Bool
  rest : List Char
  deriving DecidableEq, Repr

/-- Reads a statement and skips its block. -/
def readItem (text : List Char) : Except Fault Chunk :=
  match readStatement [] text with
  | .error fault => .error fault
  | .ok reading =>
    if reading.ending = .block then
      (skipBlock reading.rest ⟨0, 0⟩ reading.rest).map fun rest => ⟨reading.text, true, rest⟩
    else .ok ⟨reading.text, false, reading.rest⟩

/-! ## What remains -/

theorem skipFiller_suffix {text rest : List Char} (h : skipFiller text = .ok rest) :
    rest <:+ text := by
  fun_induction skipFiller text with
  | case1 => cases h; exact List.suffix_refl _
  | case2 c tail _ ih => exact (ih h).trans (List.suffix_cons c tail)
  | case3 c tail _ _ ih =>
    exact ((ih h).trans (afterLine_suffix tail)).trans (List.suffix_cons c tail)
  | case4 => cases h
  | case5 c tail _ _ _ after hafter ih =>
    exact (((ih h).trans (closeComment_suffix hafter)).trans (List.tail_suffix tail)).trans
      (List.suffix_cons c tail)
  | case6 => cases h; exact List.suffix_refl _

/-- Where a statement ends at a lexeme, what follows is the rest, or the lexeme itself if that is
a closing brace. -/
theorem endingAt_rest {owed here rest : List Char} {lexeme : Lexeme} {reading : Reading}
    (h : endingAt owed lexeme here rest = some reading) :
    reading.rest = rest ∨ (reading.rest = here ∧ lexeme = .char '}') := by
  unfold endingAt at h
  split at h
  · cases h; exact .inl rfl
  · cases h; exact .inl rfl
  · cases h; exact .inr ⟨rfl, rfl⟩
  · cases h

theorem readStatement_suffix {owed text : List Char} {reading : Reading}
    (h : readStatement owed text = .ok reading) : reading.rest <:+ text := by
  fun_induction readStatement owed text generalizing reading with
  | case1 => cases h
  | case2 => cases h; exact List.nil_suffix
  | case3 => cases h
  | case4 owed text lexeme rest hnext found hend =>
    cases h
    obtain ⟨c, tail, rfl, hsuffix⟩ := next_suffix hnext
    rcases endingAt_rest hend with hrest | ⟨hrest, _⟩
    · exact hrest ▸ hsuffix.trans (List.suffix_cons c tail)
    · exact hrest ▸ List.suffix_refl _
  | case5 => cases h
  | case6 owed text lexeme rest hnext _ owed' _ ih =>
    cases hmore : readStatement owed' rest with
    | error fault => simp [hmore, Except.map] at h
    | ok more =>
      simp only [hmore, Except.map, Except.ok.injEq] at h
      subst h
      obtain ⟨c, tail, rfl, hsuffix⟩ := next_suffix hnext
      exact ((ih hmore).trans hsuffix).trans (List.suffix_cons c tail)

theorem skipBlock_suffix {entry text rest : List Char} {depth : Depth}
    (h : skipBlock entry depth text = .ok rest) : rest <:+ text := by
  fun_induction skipBlock entry depth text with
  | case1 => cases h
  | case2 => cases h
  | case3 depth text lexeme after hnext _ =>
    cases h
    obtain ⟨c, tail, rfl, hsuffix⟩ := next_suffix hnext
    exact hsuffix.trans (List.suffix_cons c tail)
  | case4 depth text lexeme after hnext depth' _ ih =>
    obtain ⟨c, tail, rfl, hsuffix⟩ := next_suffix hnext
    exact ((ih h).trans hsuffix).trans (List.suffix_cons c tail)

/-- A lexeme that is one character is that character of the text. -/
theorem next_char {lineComments : Bool} {c d : Char} {tail rest : List Char}
    (h : next lineComments (c :: tail) = .ok (some (.char d, rest))) : d = c := by
  unfold next at h
  split at h
  · cases h
  · split at h <;> cases h
  · rename_i htext
    split at h
    · cases h
    · cases h
      exact (List.cons.inj htext).1.symm
  · cases h
  · rename_i htext
    split at h
    · split at h <;> cases h
    · cases h
      exact (List.cons.inj htext).1.symm

/-- Away from a closing brace a statement takes its first character. -/
theorem readStatement_lt {c : Char} {tail : List Char} {reading : Reading} (hc : c ≠ '}')
    (h : readStatement [] (c :: tail) = .ok reading) :
    reading.rest.length < (c :: tail).length := by
  rw [readStatement] at h
  split at h
  · cases h
  · cases h
    exact Nat.succ_pos _
  · rename_i lexeme rest hnext
    have hlt := next_lt hnext
    split at h
    · rename_i hend
      cases h
      rcases endingAt_rest hend with hrest | ⟨_, hbrace⟩
      · exact hrest ▸ hlt
      · subst hbrace
        exact absurd (next_char hnext).symm hc
    · split at h
      · cases h
      · rename_i owed hnest
        cases hmore : readStatement owed rest with
        | error fault => simp [hmore, Except.map] at h
        | ok more =>
          simp only [hmore, Except.map, Except.ok.injEq] at h
          subst h
          exact Nat.lt_of_le_of_lt (readStatement_suffix hmore).length_le hlt

theorem readItem_lt {c : Char} {tail : List Char} {chunk : Chunk} (hc : c ≠ '}')
    (h : readItem (c :: tail) = .ok chunk) : chunk.rest.length < (c :: tail).length := by
  unfold readItem at h
  split at h
  · cases h
  · rename_i reading hreading
    have hlt := readStatement_lt hc hreading
    split at h
    · cases hskip : skipBlock reading.rest ⟨0, 0⟩ reading.rest with
      | error fault => simp [hskip, Except.map] at h
      | ok rest =>
        simp only [hskip, Except.map, Except.ok.injEq] at h
        subst h
        exact Nat.lt_of_le_of_lt (skipBlock_suffix hskip).length_le hlt
    · cases h
      exact hlt

/-! ## Whole sheets -/

/-- The nodes of the part `text` of the sheet `source`. -/
def nodesFrom (source text : List Char) : Except Rejection (List Node) :=
  match _hfiller : skipFiller text with
  | .error fault => .error (fault.locate source)
  | .ok [] => .ok []
  | .ok (c :: tail) =>
    if _hc : c = '}' then .error (Fault.locate source ⟨.strayCloser '}', c :: tail⟩)
    else
      match _hitem : readItem (c :: tail) with
      | .error fault => .error (fault.locate source)
      | .ok chunk =>
        match Item.read (Text.trim chunk.text) chunk.hasBlock with
        | .error cause => .error (Fault.locate source ⟨cause, c :: tail⟩)
        | .ok none => nodesFrom source chunk.rest
        | .ok (some item) =>
          (nodesFrom source chunk.rest).map (⟨Text.lineOf source (c :: tail), item⟩ :: ·)
termination_by text.length
decreasing_by
  all_goals
    exact Nat.lt_of_lt_of_le (readItem_lt _hc _hitem) (skipFiller_suffix _hfiller).length_le

/-- The nodes of a sheet written with braces and semicolons. -/
def parse (source : List Char) : Except Rejection (List Node) := nodesFrom source source

end StyleConstants.Stylesheet.Braced
