import StyleConstants.Text.Lines

/-!
# What can be wrong with a stylesheet

The causes for which a stylesheet is rejected, their wording, and the place of a fault: first as
what remains of the source there, then as the number of a line.
-/

namespace StyleConstants.Stylesheet

/-- Why a stylesheet is rejected. -/
inductive Cause where
  /-- A dollar sign without a variable name, or an at sign without a keyword. -/
  | missingName
  /-- A variable name that no colon follows. -/
  | missingColon
  /-- A variable declaration with a block beneath it. -/
  | nestedInVariable
  /-- A variable declaration without a value. -/
  | missingValue
  /-- A string literal that does not end where it must. -/
  | openQuote (quote : Char)
  /-- A block comment that does not end. -/
  | openComment
  /-- A text that ends while a bracket is open. -/
  | missingCloser (closer : Char)
  /-- A closing bracket that does not belong to the innermost open one. -/
  | strayCloser (closer : Char)
  /-- An indented line before the first statement of the indented dialect. -/
  | leadingIndent
  /-- A semicolon at the end of a statement of the indented dialect. -/
  | semicolon
  deriving DecidableEq, Repr

/-- The wording of a cause. -/
def Cause.message : Cause → String
  | .missingName => "Expected identifier."
  | .missingColon => "expected \":\"."
  | .nestedInVariable => "Nothing may be nested beneath variable declarations."
  | .missingValue => "Expected expression."
  | .openQuote quote => s!"Expected {quote}."
  | .openComment => "expected more input."
  | .missingCloser closer => s!"expected \"{closer}\"."
  | .strayCloser closer => s!"unmatched \"{closer}\"."
  | .leadingIndent => "Indenting at the beginning of the document is illegal."
  | .semicolon => "semicolons aren't allowed in the indented syntax."

/-- A cause together with what remains of the source at the place it is blamed on. -/
structure Fault where
  cause : Cause
  rest : List Char
  deriving DecidableEq, Repr

/-- A cause and the line it is reported for. -/
structure Rejection where
  line : Nat
  cause : Cause
  deriving DecidableEq, Repr

/-- The line of `source` on which the fault lies. -/
def Fault.locate (source : List Char) (fault : Fault) : Rejection :=
  ⟨Text.lineOf source fault.rest, fault.cause⟩

end StyleConstants.Stylesheet
