import StyleConstants.Stylesheet.Fault

/-!
# Lexemes

The pieces in which statements and blocks of both dialects are read: string literals and comments
as a whole, the opening of an interpolation, and all else character by character. Brackets are kept
as the list of the closers still owed, the innermost first.

* `closeQuote_suffix`, `closeComment_suffix`, `next_suffix`: what remains is an end part of what
  was given, so that nothing is read twice.
* `next_lt`: a lexeme takes at least one character.
-/

namespace StyleConstants.Stylesheet

/-- A piece of a statement or of a block. -/
inductive Lexeme where
  /-- A string literal, quotes and escapes as written. -/
  | quoted (text : List Char)
  /-- A comment from a slash and a star to a star and a slash. -/
  | blockComment
  /-- A comment from two slashes to the end of the line. -/
  | lineComment
  /-- A number sign and an opening brace. -/
  | interpolation
  /-- Any other character. -/
  | char (c : Char)
  deriving DecidableEq, Repr

namespace Lexeme

/-- What a lexeme leaves in the text of a statement: a comment counts as a space. -/
def rendered : Lexeme → List Char
  | quoted text => text
  | blockComment => [' ']
  | lineComment => [' ']
  | interpolation => ['#', '{']
  | char c => [c]

/-- Whether the character opens and closes string literals. -/
def isQuote (c : Char) : Bool := c == '"' || c == '\''

/-- Reads on to the closing quote of a literal opened by `quote`: the part read, with the closing
quote, and what follows. A backslash keeps the character after it. A literal ends on its line
unless the line break is escaped; else the answer is where it broke off. -/
def closeQuote (quote : Char) : List Char → Except (List Char) (List Char × List Char)
  | [] => .error []
  | '\n' :: rest => .error ('\n' :: rest)
  | ['\\'] => .error []
  | '\\' :: c :: rest =>
    (closeQuote quote rest).map fun (read, after) => ('\\' :: c :: read, after)
  | c :: rest =>
    if c = quote then .ok ([c], rest)
    else (closeQuote quote rest).map fun (read, after) => (c :: read, after)

/-- What follows the end of a block comment, if there is an end. -/
def closeComment : List Char → Option (List Char)
  | [] => none
  | '*' :: '/' :: rest => some rest
  | _ :: rest => closeComment rest

/-- What remains on the line: a line comment ends before the line break. -/
def afterLine (text : List Char) : List Char := text.dropWhile (· ≠ '\n')

/-- The next lexeme and what follows it, or nothing at the end. Two slashes open a comment only if
`lineComments` holds. -/
def next (lineComments : Bool) : List Char → Except Fault (Option (Lexeme × List Char))
  | [] => .ok none
  | '/' :: '*' :: rest =>
    match closeComment rest with
    | none => .error ⟨.openComment, '/' :: '*' :: rest⟩
    | some after => .ok (some (blockComment, after))
  | '/' :: '/' :: rest =>
    if lineComments then .ok (some (lineComment, afterLine rest))
    else .ok (some (char '/', '/' :: rest))
  | '#' :: '{' :: rest => .ok (some (interpolation, rest))
  | c :: rest =>
    if isQuote c then
      match closeQuote c rest with
      | .error place => .error ⟨.openQuote c, place⟩
      | .ok (read, after) => .ok (some (quoted (c :: read), after))
    else .ok (some (char c, rest))

/-- Whether the character closes a bracket. -/
def isCloser (c : Char) : Bool := c == ')' || c == ']' || c == '}'

/-- The closers owed after one more lexeme. -/
def nest (owed : List Char) : Lexeme → Except Cause (List Char)
  | interpolation => .ok ('}' :: owed)
  | char '(' => .ok (')' :: owed)
  | char '[' => .ok (']' :: owed)
  | char '{' => .ok ('}' :: owed)
  | char c =>
    if isCloser c then
      match owed with
      | closer :: outer => if closer = c then .ok outer else .error (.strayCloser c)
      | [] => .error (.strayCloser c)
    else .ok owed
  | _ => .ok owed

/-! ## What remains -/

theorem closeQuote_suffix {quote : Char} {text read after : List Char}
    (h : closeQuote quote text = .ok (read, after)) : text = read ++ after := by
  fun_induction closeQuote quote text generalizing read with
  | case1 => simp at h
  | case2 => simp at h
  | case3 => simp at h
  | case4 c rest ih =>
    cases hrest : closeQuote quote rest with
    | error place => simp [hrest, Except.map] at h
    | ok pair =>
      obtain ⟨read', after'⟩ := pair
      simp only [hrest, Except.map, Except.ok.injEq, Prod.mk.injEq] at h
      obtain ⟨rfl, rfl⟩ := h
      simp [ih hrest]
  | case5 =>
    simp only [Except.ok.injEq, Prod.mk.injEq] at h
    obtain ⟨rfl, rfl⟩ := h
    rfl
  | case6 c rest _ _ _ _ ih =>
    cases hrest : closeQuote quote rest with
    | error place => simp [hrest, Except.map] at h
    | ok pair =>
      obtain ⟨read', after'⟩ := pair
      simp only [hrest, Except.map, Except.ok.injEq, Prod.mk.injEq] at h
      obtain ⟨rfl, rfl⟩ := h
      simp [ih hrest]

theorem closeComment_suffix {text after : List Char} (h : closeComment text = some after) :
    after <:+ text := by
  fun_induction closeComment text with
  | case1 => simp at h
  | case2 rest =>
    cases h
    exact ⟨['*', '/'], rfl⟩
  | case3 c rest _ ih => exact (ih h).trans (List.suffix_cons c rest)

theorem afterLine_suffix (text : List Char) : afterLine text <:+ text :=
  List.dropWhile_suffix _

/-- A lexeme is followed by a proper end part of the text it was read from. -/
theorem next_suffix {lineComments : Bool} {text rest : List Char} {lexeme : Lexeme}
    (h : next lineComments text = .ok (some (lexeme, rest))) :
    ∃ c tail, text = c :: tail ∧ rest <:+ tail := by
  unfold next at h
  split at h
  · simp at h
  · split at h
    · simp at h
    · rename_i after hafter
      simp only [Except.ok.injEq, Option.some.injEq, Prod.mk.injEq] at h
      obtain ⟨_, rfl⟩ := h
      exact ⟨_, _, rfl, (closeComment_suffix hafter).trans (List.suffix_cons _ _)⟩
  · split at h
    · simp only [Except.ok.injEq, Option.some.injEq, Prod.mk.injEq] at h
      obtain ⟨_, rfl⟩ := h
      exact ⟨_, _, rfl, (afterLine_suffix _).trans (List.suffix_cons _ _)⟩
    · simp only [Except.ok.injEq, Option.some.injEq, Prod.mk.injEq] at h
      obtain ⟨_, rfl⟩ := h
      exact ⟨_, _, rfl, List.suffix_refl _⟩
  · simp only [Except.ok.injEq, Option.some.injEq, Prod.mk.injEq] at h
    obtain ⟨_, rfl⟩ := h
    exact ⟨_, _, rfl, List.suffix_cons _ _⟩
  · split at h
    · split at h
      · simp at h
      · rename_i read after hquote
        simp only [Except.ok.injEq, Option.some.injEq, Prod.mk.injEq] at h
        obtain ⟨_, rfl⟩ := h
        exact ⟨_, _, rfl, ⟨read, (closeQuote_suffix hquote).symm⟩⟩
    · simp only [Except.ok.injEq, Option.some.injEq, Prod.mk.injEq] at h
      obtain ⟨_, rfl⟩ := h
      exact ⟨_, _, rfl, List.suffix_refl _⟩

theorem next_lt {lineComments : Bool} {text rest : List Char} {lexeme : Lexeme}
    (h : next lineComments text = .ok (some (lexeme, rest))) : rest.length < text.length := by
  obtain ⟨c, tail, rfl, hsuffix⟩ := next_suffix h
  exact Nat.lt_succ_of_le hsuffix.length_le

end Lexeme

end StyleConstants.Stylesheet
