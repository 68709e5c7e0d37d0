import StyleConstants.Unicode.Alphanumeric
import StyleConstants.Stylesheet.Fault
import StyleConstants.Stylesheet.Name
import StyleConstants.Stylesheet.Node

/-!
# From the text of a statement to an item

Both dialects read the text of a statement and whether a block follows; what the statement is, is
decided here once for both.

* `dropFlag?_append`: a flag is taken off the end of a value, with the blanks before it.
-/

namespace StyleConstants.Stylesheet

/-- The text without the end `flag` and the blanks before it, if it ends in `flag`. -/
def dropFlag? (flag text : List Char) : Option (List Char) :=
  if flag.isSuffixOf text then some (Text.trimEnd (text.take (text.length - flag.length)))
  else none

/-- The value of a declaration and whether it is marked as a default and as global. -/
structure Flagged where
  value : List Char
  isDefault : Bool
  isGlobal : Bool
  deriving DecidableEq, Repr

theorem dropFlag?_append (flag text : List Char) :
    dropFlag? flag (text ++ flag) = some (Text.trimEnd text) := by
  simp [dropFlag?]

theorem dropFlag?_eq_none {flag text : List Char} (h : ¬ flag <:+ text) :
    dropFlag? flag text = none := by
  simp [dropFlag?, h]

theorem dropFlag?_lt {flag text rest : List Char} (hflag : flag ≠ [])
    (h : dropFlag? flag text = some rest) : rest.length < text.length := by
  unfold dropFlag? at h
  split at h
  · rename_i hsuffix
    cases h
    have hle := (List.isSuffixOf_iff_suffix.1 hsuffix).length_le
    have hpos := List.length_pos_iff.2 hflag
    obtain ⟨blanks, _, hblanks⟩ :=
      Text.exists_trimEnd_append_blank (text.take (text.length - flag.length))
    have htake := congrArg List.length hblanks
    simp only [List.length_append, List.length_take] at htake
    omega
  · cases h

/-- Takes the flags from the end of a value. -/
def splitFlags (value : List Char) : Flagged :=
  match _hdefault : dropFlag? "!default".toList value with
  | some rest => { splitFlags rest with isDefault := true }
  | none =>
    match _hglobal : dropFlag? "!global".toList value with
    | some rest => { splitFlags rest with isGlobal := true }
    | none => ⟨value, false, false⟩
termination_by value.length
decreasing_by
  · exact dropFlag?_lt (by decide) _hdefault
  · exact dropFlag?_lt (by decide) _hglobal

/-- A character that the keyword of a directive may hold. -/
def isKeywordChar (c : Char) : Bool := Unicode.isAlphanumeric c || c == '-' || c == '_'

/-- The declaration written by what follows a dollar sign. A missing name is noticed before a
missing colon, that before a block, and that before a missing value. -/
def Variable.read (text : List Char) (hasBlock : Bool) : Except Cause Variable :=
  let name := text.takeWhile isNameChar
  if isVariableName name then
    match Text.trimStart (text.dropWhile isNameChar) with
    | ':' :: rest =>
      if hasBlock then .error .nestedInVariable
      else
        let flagged := splitFlags (Text.trim rest)
        if flagged.value.isEmpty then .error .missingValue
        else .ok ⟨String.ofList name, String.ofList flagged.value, flagged.isDefault,
          flagged.isGlobal⟩
    | _ => .error .missingColon
  else .error .missingName

/-- The directive written by what follows an at sign. -/
def AtRule.read (text : List Char) (hasBlock : Bool) : Except Cause AtRule :=
  let keyword := text.takeWhile isKeywordChar
  if keyword.isEmpty then .error .missingName
  else .ok ⟨String.ofList keyword, String.ofList (Text.trim (text.dropWhile isKeywordChar)),
    hasBlock⟩

/-- The item that a statement with this text is, if it is not empty. The text has no blanks at its
ends. -/
def Item.read (text : List Char) (hasBlock : Bool) : Except Cause (Option Item) :=
  match text with
  | '$' :: rest => (Variable.read rest hasBlock).map fun v => some (.variable v)
  | '@' :: rest => (AtRule.read rest hasBlock).map fun r => some (.atRule r)
  | _ =>
    if hasBlock then .ok (some (.rule (String.ofList text)))
    else if text.isEmpty then .ok none
    else .ok (some (.statement (String.ofList text)))

end StyleConstants.Stylesheet
