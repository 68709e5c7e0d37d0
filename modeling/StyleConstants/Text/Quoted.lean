import StyleConstants.Unicode.Visible

/-!
# Texts shown in quotes

A text shown to a programmer stands in double quotes, with escapes for what would end it and for
what could not be seen. Single quotes stay as they are.
-/

namespace StyleConstants.Text

/-- The lower-case hexadecimal digits of a code point in braces. -/
def codeInBraces (n : Nat) : List Char := '\x7b' :: (Nat.toDigits 16 n ++ ['\x7d'])

/-- How a character is shown. -/
def escape (c : Char) : List Char :=
  if c = '\x00' then ['\\', '0']
  else if c = '\t' then ['\\', 't']
  else if c = '\r' then ['\\', 'r']
  else if c = '\n' then ['\\', 'n']
  else if c = '\\' ∨ c = '"' then ['\\', c]
  else if Unicode.isVisible c then [c]
  else '\\' :: 'u' :: codeInBraces c.toNat

/-- The text in quotes. -/
def quoted (text : String) : String :=
  String.ofList ('"' :: (text.toList.flatMap escape ++ ['"']))

end StyleConstants.Text
