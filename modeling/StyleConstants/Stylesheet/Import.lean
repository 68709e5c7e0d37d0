import StyleConstants.Text.Blank
import StyleConstants.Text.Search

/-!
# Import arguments

An import names a file of its own if its whole argument is one string literal without
interpolation. Any other argument (several paths, a media query, a `url`) is left to the compiler.

* `literalTail_escape`: a literal is read back from its escaped form.
-/

namespace StyleConstants.Stylesheet

/-- The text of a literal that was opened by `quote` and must close at the very end: a backslash
stands for the character after it. -/
def literalTail (quote : Char) : List Char → Option (List Char)
  | [] => none
  | ['\\'] => none
  | '\\' :: c :: rest => (literalTail quote rest).map (c :: ·)
  | c :: rest =>
    if c = quote then
      if rest.isEmpty then some [] else none
    else (literalTail quote rest).map (c :: ·)

/-- The text of the string literal that the argument consists of, if it does. -/
def literalOf (argument : List Char) : Option (List Char) :=
  match Text.trim argument with
  | '"' :: rest => literalTail '"' rest
  | '\'' :: rest => literalTail '\'' rest
  | _ => none

/-- The file that an import with this argument names, if it names one. -/
def importTarget (argument : List Char) : Option (List Char) :=
  match literalOf argument with
  | some path => if Text.occursIn ['#', '{'] path then none else some path
  | none => none

/-- The text of a literal with a backslash before each backslash and each quote. -/
def escapeLiteral (quote : Char) (text : List Char) : List Char :=
  text.flatMap fun c => if c = '\\' ∨ c = quote then ['\\', c] else [c]

theorem literalTail_escape {quote : Char} (hquote : quote ≠ '\\') (text : List Char) :
    literalTail quote (escapeLiteral quote text ++ [quote]) = some text := by
  induction text with
  | nil =>
    rw [escapeLiteral, List.flatMap_nil, List.nil_append, literalTail]
    · simp
    · simpa using hquote
    · simp
  | cons c rest ih =>
    rw [escapeLiteral, List.flatMap_cons, ← escapeLiteral]
    split
    · simp [literalTail, ih]
    · rename_i hc
      rw [not_or] at hc
      rw [List.append_assoc, List.singleton_append, literalTail]
      · simp [hc.2, ih]
      · simp
      · simpa using fun _ _ h => absurd h hc.1

end StyleConstants.Stylesheet
