/-!
# Lines

Places in a text are given by what remains of the text from there on, so that the number of a line
is read off the line breaks that no longer remain.

* `lineOf_self`, `lineOf_append`: the first line is 1, and each line break passed adds 1.
-/

namespace StyleConstants.Text

/-- How many line breaks the text holds. -/
def newlines (text : List Char) : Nat := text.count '\n'

/-- The number of the line of `source` on which its end part `rest` starts. -/
def lineOf (source rest : List Char) : Nat := 1 + (newlines source - newlines rest)

/-- The lines of a text, without the breaks that end them. A last line needs no break, and the
empty text has no line. -/
def lines : List Char → List (List Char)
  | [] => []
  | '\n' :: rest => [] :: lines rest
  | '\r' :: '\n' :: rest => [] :: lines rest
  | c :: rest =>
    match lines rest with
    | [] => [[c]]
    | line :: others => (c :: line) :: others

theorem newlines_append (a b : List Char) : newlines (a ++ b) = newlines a + newlines b :=
  List.count_append

theorem lineOf_self (source : List Char) : lineOf source source = 1 := by
  simp [lineOf]

theorem lineOf_append (passed rest : List Char) :
    lineOf (passed ++ rest) rest = 1 + newlines passed := by
  simp [lineOf, newlines_append]

end StyleConstants.Text
