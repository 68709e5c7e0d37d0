import Std.Data.ExtTreeMap
import StyleConstants.Probe.Marker
import StyleConstants.Text.Blank

/-!
# Reading values back from rendered text

A declaration of a marker is an occurrence of it at the start of a declaration, followed by a
colon. Its value runs to the semicolon or closing brace that stands outside quotes and brackets. A
closing bracket that does not match the innermost open one is part of the value.

* `MarkerSet.readBack`: every marker must be declared exactly once.
-/

namespace StyleConstants

/-- Values by the names of their variables. -/
abbrev Values := Std.ExtTreeMap String String

theorem Values.mem_iff {values : Values} {name : String} :
    name ∈ values ↔ ∃ value, values[name]? = some value := by
  rw [Std.ExtTreeMap.mem_iff_isSome_getElem?, Option.isSome_iff_exists]

/-- Why a rendered text does not give the values asked for. -/
inductive ReadbackFault where
  | missing (name marker : String)
  | repeated (name marker : String) (count : Nat)
  deriving DecidableEq, Repr

namespace Readback

/-- Where a value stands: plainly, inside a literal opened by a quote, or after a backslash in
one. -/
inductive Quoting where
  | plain
  | inside (quote : Char)
  | escaped (quote : Char)
  deriving DecidableEq, Repr

/-- The state after one more character of a value: the quoting and the closing brackets owed,
innermost first; none at the character that ends the value. -/
def advance (quoting : Quoting) (owed : List Char) (c : Char) : Option (Quoting × List Char) :=
  match quoting with
  | .escaped quote => some (.inside quote, owed)
  | .inside quote =>
    if c = '\\' then some (.escaped quote, owed)
    else if c = quote then some (.plain, owed)
    else some (.inside quote, owed)
  | .plain =>
    if c = '"' ∨ c = '\'' then some (.inside c, owed)
    else if c = '(' then some (.plain, ')' :: owed)
    else if c = '[' then some (.plain, ']' :: owed)
    else if c = '\x7b' then some (.plain, '\x7d' :: owed)
    else if owed.head? = some c then some (.plain, owed.tail)
    else if owed.isEmpty ∧ (c = ';' ∨ c = '\x7d') then none
    else some (.plain, owed)

/-- The stretch of text up to the end of the value at its start. -/
def stretch (quoting : Quoting) (owed : List Char) : List Char → List Char
  | [] => []
  | c :: rest =>
    match advance quoting owed c with
    | some (quoting, owed) => c :: stretch quoting owed rest
    | none => []

/-- The value at the start of the text. -/
def readValue (text : List Char) : List Char := Text.trim (stretch .plain [] text)

/-- An occurrence of a marker: the character before it, if there is one, and the text after it. -/
structure Occurrence where
  before : Option Char
  after : List Char
  deriving DecidableEq, Repr

/-- The occurrences of a marker, none of which overlaps an earlier one. The first `skip` characters
belong to the occurrence found last. -/
def occurrences (marker : List Char) (before : Option Char) (skip : Nat) :
    List Char → List Occurrence
  | [] => []
  | c :: rest =>
    match skip with
    | skip + 1 => occurrences marker (some c) skip rest
    | 0 =>
      if marker.isPrefixOf (c :: rest) then
        ⟨before, (c :: rest).drop marker.length⟩
          :: occurrences marker (some c) (marker.length - 1) rest
      else occurrences marker (some c) 0 rest

/-- Whether a declaration can start after this character. -/
def startsDeclaration (before : Option Char) : Bool :=
  before.all fun c => Text.isBlank c || c == '\x7b' || c == ';'

/-- What follows the colon of the declaration that the occurrence starts, if it starts one. -/
def Occurrence.declared? (occurrence : Occurrence) : Option (List Char) :=
  if startsDeclaration occurrence.before then
    match Text.trimStart occurrence.after with
    | ':' :: rest => some rest
    | _ => none
  else none

/-- What follows the colon of each declaration of the marker. -/
def declarations (marker text : List Char) : List (List Char) :=
  (occurrences marker none 0 text).filterMap Occurrence.declared?

/-- The value of the only declaration of a marker. -/
def valueOf (text : List Char) (name marker : String) : Except ReadbackFault String :=
  match declarations marker.toList text with
  | [] => .error (.missing name marker)
  | [rest] => .ok (String.ofList (readValue rest))
  | found => .error (.repeated name marker found.length)

/-- The values of the variables with these markers, added to those already known. -/
def collect (text : List Char) : List (String × String) → Values → Except ReadbackFault Values
  | [], known => .ok known
  | (name, marker) :: rest, known =>
    match valueOf text name marker with
    | .ok value => collect text rest (known.insert name value)
    | .error fault => .error fault

end Readback

/-- The values of all variables of the set in a rendered text. -/
def MarkerSet.readBack (set : MarkerSet) (rendered : String) : Except ReadbackFault Values :=
  Readback.collect rendered.toList set.markers ∅

end StyleConstants
