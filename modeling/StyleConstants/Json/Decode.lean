import StyleConstants.Json.Value
import StyleConstants.Json.Number
import StyleConstants.Text.Quoted

/-!
# Decoding JSON values

What can be wrong with a value that is JSON but not of the shape asked for, and the readers of the
shapes that do not depend on the type decoded.
-/

namespace StyleConstants

/-- Where a JSON value comes from: a tree in which fields are in ascending order and occur once, or
a text that is read from left to right. -/
inductive JsonSource where
  | tree
  | text
  deriving DecidableEq, Repr

namespace Json

/-- Why a value is not of the shape asked for. -/
inductive Mismatch where
  /-- A value of another kind. -/
  | kind (got expected : String)
  | unknownField (name : String) (known : List String)
  | unknownVariant (name : String) (known : List String)
  | missingField (name : String)
  | repeatedField (name : String)
  /-- A list of this many parts where another number is expected. -/
  | length (count : Nat) (expected : String)
  /-- An object with no or several fields where one is expected. -/
  | singleField
  /-- Something else where the value of a variant is expected. -/
  | noValue
  /-- More after the last part of a list. -/
  | trailing
  /-- A value that fits none of the alternatives of a type. -/
  | noAlternative (type : String)
  deriving DecidableEq, Repr

/-- The names in backticks, with commas between them. -/
def inBackticks (names : List String) : String :=
  String.intercalate ", " (names.map fun name => "`" ++ name ++ "`")

/-- The wording of a mismatch. -/
def Mismatch.message : Mismatch → String
  | kind got expected => s!"invalid type: {got}, expected {expected}"
  | unknownField name known =>
    "unknown field " ++ inBackticks [name] ++ ", expected one of " ++ inBackticks known
  | unknownVariant name known =>
    "unknown variant " ++ inBackticks [name] ++ ", expected one of " ++ inBackticks known
  | missingField name => "missing field " ++ inBackticks [name]
  | repeatedField name => "duplicate field " ++ inBackticks [name]
  | length count expected => s!"invalid length {count}, expected {expected}"
  | singleField => "invalid value: map, expected map with a single key"
  | noValue => "expected value"
  | trailing => "trailing characters"
  | noAlternative type => s!"data did not match any variant of untagged enum {type}"

/-- What a value is called in a message. -/
def description : Json → String
  | null => "null"
  | bool true => "boolean " ++ inBackticks ["true"]
  | bool false => "boolean " ++ inBackticks ["false"]
  | integer value => "integer " ++ inBackticks [toString value]
  | float value => "floating point " ++ inBackticks [floatText value]
  | string value => "string " ++ Text.quoted value
  | array _ => "sequence"
  | object _ => "map"

/-- The mismatch of a value with an expected kind. -/
def unlike (value : Json) (expected : String) : Mismatch := .kind value.description expected

/-- A string. -/
def asString (expected : String) : Json → Except Mismatch String
  | string value => .ok value
  | value => .error (value.unlike expected)

/-- A list, part by part. -/
def asList {α : Type} (part : Json → Except Mismatch α) : Json → Except Mismatch (List α)
  | array items => items.mapM part
  | value => .error (value.unlike "a sequence")

/-- A value or null. -/
def asOption {α : Type} (part : Json → Except Mismatch α) : Json → Except Mismatch (Option α)
  | null => .ok none
  | value => (part value).map some

end Json

end StyleConstants
