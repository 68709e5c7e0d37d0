import StyleConstants.Case.Naming
import StyleConstants.Json.Decode
import StyleConstants.Json.Reader
import StyleConstants.Path.Basic

/-!
# Options

The configuration of an engine: two case styles and the directories searched for imports, all of
them optional. Options come as a JSON value or as a JSON text. In a value the fields of an object
have no order and no repetition; a text is read from left to right, so that the first fault in it
is reported.
-/

namespace StyleConstants

/-- What the behaviour of an engine depends on. -/
structure Options where
  /-- The convention of the names declared in stylesheets. -/
  sassCase : Option CaseStyle
  /-- The convention of the names handed out. -/
  outputCase : Option CaseStyle
  /-- The directories in which the compiler looks for imports. -/
  loadPaths : List Path
  deriving DecidableEq, Repr

/-- Why options are refused. -/
inductive OptionsFault where
  | unknownStyle (name : String)
  | mismatch (fault : Json.Mismatch)
  /-- The text is not JSON. -/
  | notJson
  deriving DecidableEq, Repr

/-- The wording of a fault. -/
def OptionsFault.message : OptionsFault → String
  | unknownStyle name => s!"unknown case style \"{name}\""
  | mismatch fault => fault.message
  | notJson => "not a JSON text"

namespace CaseStyle

/-- The style with this name in a JSON value. -/
def ofVariant (name : String) : Except Json.Mismatch CaseStyle :=
  match ofName? name with
  | some style => .ok style
  | none => .error (.unknownVariant name (all.map (·.name)))

/-- A style as a JSON value: its name, or an object in which its name has the value null. -/
def decode (source : JsonSource) : Json → Except Json.Mismatch CaseStyle
  | .string name => ofVariant name
  | .object [(name, value)] =>
    match ofVariant name, value with
    | .error fault, _ => .error fault
    | .ok style, .null => .ok style
    | .ok _, value => .error (value.unlike "unit")
  | .object ((name, value) :: _) =>
    match source, ofVariant name, value with
    | .tree, _, _ => .error .singleField
    | .text, .error fault, _ => .error fault
    | .text, .ok _, .null => .error .noValue
    | .text, .ok _, value => .error (value.unlike "unit")
  | .object [] =>
    match source with
    | .tree => .error .singleField
    | .text => .error .noValue
  | value =>
    match source with
    | .tree => .error (value.unlike "string or map")
    | .text => .error .noValue

/-- The style that a JSON value stands for. -/
def ofJson (value : Json) : Except Json.Mismatch CaseStyle := decode .tree value.sorted

/-- The style named by the text, as part of a configuration. -/
def ofConfiguration (name : String) : Except OptionsFault CaseStyle :=
  match ofName? name with
  | some style => .ok style
  | none => .error (.unknownStyle name)

end CaseStyle

namespace Options

/-- The options of an engine that was not configured: no styles and no directories. -/
def standard : Options := ⟨none, none, []⟩

/-- The names of the fields. -/
def fieldNames : List String := ["sassCase", "outputCase", "loadPaths"]

/-- Options of which some fields are read. -/
structure Draft where
  sassCase : Option (Option CaseStyle)
  outputCase : Option (Option CaseStyle)
  loadPaths : Option (List Path)

/-- No field read. -/
def Draft.empty : Draft := ⟨none, none, none⟩

/-- The options with the defaults for the fields that were not read. -/
def Draft.finish (draft : Draft) : Options :=
  ⟨draft.sassCase.getD none, draft.outputCase.getD none, draft.loadPaths.getD []⟩

/-- An optional style. -/
def readStyle (source : JsonSource) : Json → Except Json.Mismatch (Option CaseStyle) :=
  Json.asOption (CaseStyle.decode source)

/-- The directories. -/
def readPaths : Json → Except Json.Mismatch (List Path) :=
  Json.asList fun value => (value.asString "path string").map Path.ofText

/-- Reads one field. A field that was read before is refused before its value is looked at. -/
def Draft.readField (source : JsonSource) (draft : Draft) (name : String) (value : Json) :
    Except Json.Mismatch Draft :=
  if name = "sassCase" then
    if draft.sassCase.isSome then .error (.repeatedField name)
    else (readStyle source value).map fun style => { draft with sassCase := some style }
  else if name = "outputCase" then
    if draft.outputCase.isSome then .error (.repeatedField name)
    else (readStyle source value).map fun style => { draft with outputCase := some style }
  else if name = "loadPaths" then
    if draft.loadPaths.isSome then .error (.repeatedField name)
    else (readPaths value).map fun paths => { draft with loadPaths := some paths }
  else .error (.unknownField name fieldNames)

/-- Reads the fields in order. -/
def Draft.readFields (source : JsonSource) (draft : Draft) :
    List (String × Json) → Except Json.Mismatch Draft
  | [] => .ok draft
  | (name, value) :: rest =>
    match draft.readField source name value with
    | .error fault => .error fault
    | .ok draft => draft.readFields source rest

/-- Reads the fields given as a list of their values, and says how many values are left over. -/
def Draft.readItems (source : JsonSource) (draft : Draft) :
    List String → List Json → Except Json.Mismatch (Draft × Nat)
  | name :: names, value :: rest =>
    match draft.readField source name value with
    | .error fault => .error fault
    | .ok draft => draft.readItems source names rest
  | _, rest => .ok (draft, rest.length)

/-- Options from a value whose fields are in the order in which they are to be read. -/
def decode (source : JsonSource) : Json → Except Json.Mismatch Options
  | .object fields => (Draft.empty.readFields source fields).map Draft.finish
  | .array items =>
    match Draft.empty.readItems source fieldNames items with
    | .error fault => .error fault
    | .ok (draft, 0) => .ok draft.finish
    | .ok (_, _ + 1) =>
      match source with
      | .tree => .error (.length items.length "fewer elements in array")
      | .text => .error .trailing
  | value => .error (value.unlike "struct ExtractOptions")

/-- Options from a JSON value. -/
def ofJson (value : Json) : Except OptionsFault Options :=
  (decode .tree value.sorted).mapError .mismatch

/-- Options from a JSON text. -/
def ofText (text : String) : Except OptionsFault Options :=
  match Json.read? text with
  | none => .error .notJson
  | some value => (decode .text value).mapError .mismatch

/-- A style as a JSON value. -/
def styleJson : Option CaseStyle → Json
  | some style => .string style.name
  | none => .null

/-- The options as a JSON value; none if some directory is not spelled by a text. -/
def toJson? (options : Options) : Option Json :=
  (options.loadPaths.mapM Path.text?).map fun paths =>
    .object [("sassCase", styleJson options.sassCase), ("outputCase", styleJson options.outputCase),
      ("loadPaths", .array (paths.map .string))]

/-- The naming that the options ask for. -/
def cases (options : Options) : Naming :=
  ⟨Renaming.ofStyle? options.sassCase, Renaming.ofStyle? options.outputCase⟩

end Options

end StyleConstants
