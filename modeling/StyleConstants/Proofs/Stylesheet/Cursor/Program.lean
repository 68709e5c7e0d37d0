import StyleConstants.Proofs.Loop
import StyleConstants.Proofs.Text.Bytes
import StyleConstants.Stylesheet.Parse

/-!
# Readers with a cursor

Both dialects read by loops that move a cursor over a source that stays as it is: over its
characters with braces, over its lines and over the characters of a line with indentation. That the
loops end is not part of their definitions; a turn leads nowhere if it reads where nothing is or if
a loop within it does not end.

* `Braced.sheetTurn`, `Indented.sheetTurn`: one turn of the loop over a sheet.
-/

namespace StyleConstants.Stylesheet

open Lexeme
open Text (isBlank byteIndex? takeBytes?)
open Text.Utf8 (encode)

/-- One member further on, if there is one. -/
def bump {α : Type} (source : List α) (place : Nat) : Nat :=
  if place < source.length then place + 1 else place

/-- Goes on with what was read; a fault ends the loop. -/
def orFault {ε α ρ σ : Type} (reading : Part (Except ε α))
    (more : α → Part (Except ε ρ ⊕ σ)) : Part (Except ε ρ ⊕ σ) :=
  reading.bind fun
    | .error fault => .some (.inl (.error fault))
    | .ok a => more a

/-- Text that was read, and the place that was reached. -/
structure Cut where
  text : List Char
  place : Nat

/-- Text that was read so far, the closers owed and the place that was reached. -/
structure Scan where
  text : List Char
  owed : List Char
  place : Nat

/-- A sheet of which a part was read: its nodes so far and the place that was reached. -/
structure Begun where
  nodes : List Node
  place : Nat

namespace Braced

variable (source : List Char)

/-! ## Comments and literals -/

/-- Passes one character of a line comment. -/
def lineTurn : Nat →. Nat ⊕ Nat := fun place =>
  match source[place]? with
  | none => .some (.inl place)
  | some c => if c = '\n' then .some (.inl place) else .some (.inr (bump source place))

/-- The end of the line comment that starts at the place. -/
def lineEnd (place : Nat) : Part Nat := (lineTurn source).fix place

/-- Passes one character of the block comment that starts at `start`, or the two that end it. -/
def commentTurn (start : Nat) : Nat →. Except Fault Nat ⊕ Nat := fun place =>
  match source[place]? with
  | none => .some (.inl (.error ⟨.openComment, source.drop start⟩))
  | some c =>
    if c = '*' ∧ source[bump source place]? = some '/' then
      .some (.inl (.ok (bump source (bump source place))))
    else .some (.inr (bump source place))

/-- The end of the block comment that starts at the place. -/
def commentEnd (place : Nat) : Part (Except Fault Nat) :=
  (commentTurn source place).fix (bump source (bump source place))

/-- Reads one character of a literal, or two if the first is a backslash. -/
def literalTurn (quote : Char) : Cut →. Except Fault Cut ⊕ Cut := fun ⟨text, place⟩ =>
  match source[place]? with
  | none => .some (.inl (.error ⟨.openQuote quote, source.drop place⟩))
  | some c =>
    if c = '\n' then .some (.inl (.error ⟨.openQuote quote, source.drop place⟩))
    else if c = '\\' then
      match source[bump source place]? with
      | none => .some (.inl (.error ⟨.openQuote quote, source.drop (bump source place)⟩))
      | some escaped => .some (.inr ⟨text ++ [c, escaped], bump source (bump source place)⟩)
    else if c = quote then .some (.inl (.ok ⟨text ++ [c], bump source place⟩))
    else .some (.inr ⟨text ++ [c], bump source place⟩)

/-- Reads the literal whose quote stands at the place. -/
def literalEnd (cut : Cut) : Part (Except Fault Cut) :=
  match source[cut.place]? with
  | none => .some (.ok cut)
  | some quote => (literalTurn source quote).fix ⟨cut.text ++ [quote], bump source cut.place⟩

/-! ## Statements and blocks -/

/-- Passes a blank or a comment. -/
def gapTurn : Nat →. Except Fault Nat ⊕ Nat := fun place =>
  match source[place]? with
  | none => .some (.inl (.ok place))
  | some c =>
    if isBlank c then .some (.inr (bump source place))
    else if c = '/' ∧ source[place + 1]? = some '/' then (lineEnd source place).map .inr
    else if c = '/' ∧ source[place + 1]? = some '*' then
      orFault (commentEnd source place) fun after => .some (.inr after)
    else .some (.inl (.ok place))

/-- The first place that is in no blank and in no comment. -/
def gapEnd (place : Nat) : Part (Except Fault Nat) := (gapTurn source).fix place

/-- A statement that has ended, and the place from which the rest is read. -/
structure Ended where
  text : List Char
  ending : Ending
  place : Nat

/-- Reads a literal, passes a comment or takes a character of a statement. -/
def statementTurn : Scan →. Except Fault Ended ⊕ Scan := fun ⟨text, owed, place⟩ =>
  match source[place]? with
  | none =>
    match owed with
    | [] => .some (.inl (.ok ⟨text, .endOfText, place⟩))
    | closer :: _ => .some (.inl (.error ⟨.missingCloser closer, source.drop place⟩))
  | some c =>
    if isQuote c then
      orFault (literalEnd source ⟨text, place⟩) fun cut => .some (.inr ⟨cut.text, owed, cut.place⟩)
    else if c = '/' ∧ source[place + 1]? = some '*' then
      orFault (commentEnd source place) fun after => .some (.inr ⟨text ++ [' '], owed, after⟩)
    else if c = '/' ∧ source[place + 1]? = some '/' ∧ ')' ∉ owed then
      (lineEnd source place).map fun after => .inr ⟨text ++ [' '], owed, after⟩
    else if c = '#' ∧ source[place + 1]? = some '{' then
      .some (.inr ⟨text ++ ['#', '{'], '}' :: owed, bump source (bump source place)⟩)
    else
      match owed, c with
      | [], ';' => .some (.inl (.ok ⟨text, .semicolon, bump source place⟩))
      | [], '{' => .some (.inl (.ok ⟨text, .block, bump source place⟩))
      | [], '}' => .some (.inl (.ok ⟨text, .strayBrace, place⟩))
      | _, _ =>
        match nest owed (.char c) with
        | .error cause => .some (.inl (.error ⟨cause, source.drop place⟩))
        | .ok owed => .some (.inr ⟨text ++ [c], owed, bump source place⟩)

/-- Reads the statement that starts at the place. -/
def statementEnd (place : Nat) : Part (Except Fault Ended) :=
  (statementTurn source).fix ⟨[], [], place⟩

/-- Inside a block: how many braces are open, its own among them, how many parentheses, and the
place that was reached. -/
structure Inside where
  braces : Int
  parens : Nat
  place : Nat

/-- Passes a literal, a comment or a character of the block that was entered at `entry`. -/
def blockTurn (entry : Nat) : Inside →. Except Fault Nat ⊕ Inside := fun ⟨braces, parens, place⟩ =>
  match source[place]? with
  | none => .some (.inl (.error ⟨.missingCloser '}', source.drop entry⟩))
  | some c =>
    if isQuote c then
      orFault (literalEnd source ⟨[], place⟩) fun cut => .some (.inr ⟨braces, parens, cut.place⟩)
    else if c = '/' ∧ source[place + 1]? = some '*' then
      orFault (commentEnd source place) fun after => .some (.inr ⟨braces, parens, after⟩)
    else if c = '/' ∧ source[place + 1]? = some '/' ∧ parens = 0 then
      (lineEnd source place).map fun after => .inr ⟨braces, parens, after⟩
    else
      match c with
      | '(' => .some (.inr ⟨braces, parens + 1, bump source place⟩)
      | ')' => .some (.inr ⟨braces, parens - 1, bump source place⟩)
      | '{' => .some (.inr ⟨braces + 1, parens, bump source place⟩)
      | '}' =>
        if braces - 1 = 0 then .some (.inl (.ok (bump source place)))
        else .some (.inr ⟨braces - 1, parens, bump source place⟩)
      | _ => .some (.inr ⟨braces, parens, bump source place⟩)

/-- Passes the block whose opening brace stands in front of the place. -/
def blockEnd (place : Nat) : Part (Except Fault Nat) := (blockTurn source place).fix ⟨1, 0, place⟩

/-! ## Sheets with braces -/

/-- A statement with its block, if it has one, and the place behind both. -/
structure Passed where
  text : List Char
  hasBlock : Bool
  place : Nat

/-- Reads the statement that starts at the place and passes its block, if it has one. -/
def itemEnd (place : Nat) : Part (Except Fault Passed) :=
  (statementEnd source place).bind fun
    | .error fault => .some (.error fault)
    | .ok ended =>
      if ended.ending = .block then
        (blockEnd source ended.place).map (·.map fun after => ⟨ended.text, true, after⟩)
      else .some (.ok ⟨ended.text, false, ended.place⟩)

/-- Adds the statement that starts at the place, and passes its block. -/
def itemTurn (nodes : List Node) (place : Nat) : Part (Except Fault (List Node) ⊕ Begun) :=
  orFault (itemEnd source place) fun passed =>
    match Item.read (Text.trim passed.text) passed.hasBlock with
    | .error cause => .some (.inl (.error ⟨cause, source.drop place⟩))
    | .ok none => .some (.inr ⟨nodes, passed.place⟩)
    | .ok (some item) =>
      .some (.inr ⟨nodes ++ [⟨Text.lineOf source (source.drop place), item⟩], passed.place⟩)

/-- Passes a gap, and a semicolon or a statement behind it. -/
def sheetTurn : Begun →. Except Fault (List Node) ⊕ Begun := fun ⟨nodes, start⟩ =>
  orFault (gapEnd source start) fun place =>
    match source[place]? with
    | none => .some (.inl (.ok nodes))
    | some '}' => .some (.inl (.error ⟨.strayCloser '}', source.drop place⟩))
    | some ';' => .some (.inr ⟨nodes, bump source place⟩)
    | some _ => itemTurn source nodes place

end Braced

namespace Indented

/-! ## Lines, each a source of its own -/

section Line

variable (source : List Char)

/-- Reads one character of a literal, or two if the first is a backslash and another one follows. -/
def literalTurn (quote : Char) : Cut →. Except Cause Cut ⊕ Cut := fun ⟨text, place⟩ =>
  match source[place]? with
  | none => .some (.inl (.error (.openQuote quote)))
  | some c =>
    if c = '\\' then
      match source[place + 1]? with
      | none => .some (.inr ⟨text ++ [c], place + 1⟩)
      | some escaped => .some (.inr ⟨text ++ [c, escaped], place + 2⟩)
    else if c = quote then .some (.inl (.ok ⟨text ++ [c], place + 1⟩))
    else .some (.inr ⟨text ++ [c], place + 1⟩)

/-- Passes the comment that starts at the place, or leaves the rest of the line to it. Its end is
looked for in the bytes behind its start, and what is in between is passed by its characters. -/
def commentTurn (text owed : List Char) (place : Nat) :
    Part (Except Cause (List Char × List Char) ⊕ Scan) :=
  match byteIndex? (encode ['*', '/']) (encode (source.drop (place + 2))) with
  | none => .some (.inl (.ok (text, owed)))
  | some bytes =>
    (Part.ofOption (takeBytes? bytes (source.drop (place + 2)))).map fun passed =>
      .inr ⟨text ++ [' '], owed, place + 2 + passed.length + 2⟩

/-- Reads a literal, passes a comment or takes a character of a line. -/
def stripTurn : Scan →. Except Cause (List Char × List Char) ⊕ Scan := fun ⟨text, owed, place⟩ =>
  match source[place]? with
  | none => .some (.inl (.ok (text, owed)))
  | some c =>
    if isQuote c then
      orFault ((literalTurn source c).fix ⟨text ++ [c], place + 1⟩) fun cut =>
        .some (.inr ⟨cut.text, owed, cut.place⟩)
    else if c = '/' ∧ source[place + 1]? = some '/' ∧ ')' ∉ owed then
      .some (.inl (.ok (text, owed)))
    else if c = '/' ∧ source[place + 1]? = some '*' then commentTurn source text owed place
    else if c = '#' ∧ source[place + 1]? = some '{' then
      .some (.inr ⟨text ++ ['#', '{'], '}' :: owed, place + 2⟩)
    else
      match nest owed (.char c) with
      | .error cause => .some (.inl (.error cause))
      | .ok owed => .some (.inr ⟨text ++ [c], owed, place + 1⟩)

/-- The text of the line, read on while the closers `owed` are missing, and the closers owed at its
end. -/
def stripEnd (owed : List Char) : Part (Except Cause (List Char × List Char)) :=
  (stripTurn source).fix ⟨[], owed, 0⟩

end Line

/-! ## Statements and blocks -/

section Sheet

variable (lines : List (List Char))

/-- Adds a line, or ends with the statement, its text and the line that follows. -/
def joinTurn : Scan →. Except Rejection Cut ⊕ Scan := fun ⟨text, owed, place⟩ =>
  (Part.ofOption lines[place]?).bind fun line =>
    (stripEnd line owed).bind fun
      | .error cause => .some (.inl (.error ⟨place + 1, cause⟩))
      | .ok (more, owed) =>
        if owed = [] then .some (.inl (.ok ⟨text ++ more ++ [' '], place + 1⟩))
        else if lines.length ≤ place + 1 then
          .some (.inl (.error ⟨place + 1, .missingCloser (owed.headD ')')⟩))
        else .some (.inr ⟨text ++ more ++ [' '], owed, place + 1⟩)

/-- Reads the statement that starts on the line. -/
def joinEnd (place : Nat) : Part (Except Rejection Cut) := (joinTurn lines).fix ⟨[], [], place⟩

/-- Beneath a statement: whether a line that is not blank was passed, and the line reached. -/
structure Beneath where
  hasBlock : Bool
  place : Nat

/-- Passes a line that is blank or indented. -/
def beneathTurn : Beneath →. Beneath ⊕ Beneath := fun ⟨hasBlock, place⟩ =>
  match lines[place]? with
  | none => .some (.inl ⟨hasBlock, place⟩)
  | some line =>
    if isNested line then .some (.inr ⟨hasBlock || !isBlankLine line, place + 1⟩)
    else .some (.inl ⟨hasBlock, place⟩)

/-- Passes the lines beneath a statement or a comment. -/
def beneathEnd (place : Nat) : Part Beneath := (beneathTurn lines).fix ⟨false, place⟩

/-! ## Sheets with indentation -/

/-- Adds the statement that starts on the line, and passes the lines beneath it. -/
def itemTurn (nodes : List Node) (place : Nat) : Part (Except Rejection (List Node) ⊕ Begun) :=
  orFault (joinEnd lines place) fun cut =>
    (beneathEnd lines cut.place).bind fun beneath =>
      if (Text.trim cut.text).getLast? = some ';' then .some (.inl (.error ⟨place + 1, .semicolon⟩))
      else
        match Item.read (Text.trim cut.text) beneath.hasBlock with
        | .error cause => .some (.inl (.error ⟨place + 1, cause⟩))
        | .ok none => .some (.inr ⟨nodes, beneath.place⟩)
        | .ok (some item) => .some (.inr ⟨nodes ++ [⟨place + 1, item⟩], beneath.place⟩)

/-- Passes a blank line, or a comment or a statement with the lines beneath it. -/
def sheetTurn : Begun →. Except Rejection (List Node) ⊕ Begun := fun ⟨nodes, place⟩ =>
  match lines[place]? with
  | none => .some (.inl (.ok nodes))
  | some line =>
    if isBlankLine line then .some (.inr ⟨nodes, place + 1⟩)
    else if isIndented line then .some (.inl (.error ⟨place + 1, .leadingIndent⟩))
    else if startsComment line then
      (beneathEnd lines (place + 1)).map fun beneath => .inr ⟨nodes, beneath.place⟩
    else itemTurn lines nodes place

end Sheet

end Indented

end StyleConstants.Stylesheet
