import StyleConstants.Import

/-!
# Imports and constants as JSON

Hosts exchange imports and constants as JSON values. A structure may be an object, whose further
fields are ignored, or the list of its parts. In an object the fields are read in ascending order of
their names, and only then is a missing one noticed.
-/

namespace StyleConstants

namespace Json

/-- The field of this name, if the object has it. -/
def field? {α : Type} (fields : List (String × Json)) (name : String)
    (part : Json → Except Mismatch α) : Except Mismatch (Option α) :=
  match fields.lookup name with
  | none => .ok none
  | some value => (part value).map some

/-- A field that must be there. -/
def required {α : Type} (name : String) : Option α → Except Mismatch α
  | some value => .ok value
  | none => .error (.missingField name)

/-- A string. -/
def asText : Json → Except Mismatch String := asString "a string"

/-- The mismatch of a list with more parts than a structure has. -/
def tooLong (items : List Json) : Mismatch := .length items.length "fewer elements in array"

end Json

open Json (Mismatch field? required asText asList asOption tooLong)

namespace NamedImport

/-- The import with these parts. -/
def decode : Json → Except Mismatch NamedImport
  | .object fields => do
    let imported ← field? fields "imported" asText
    let localName ← field? fields "local" asText
    return ⟨← required "imported" imported, ← required "local" localName⟩
  | .array items => do
    let expected := "struct NamedImport with 2 elements"
    match items with
    | [] => throw (.length 0 expected)
    | [first] =>
      discard <| asText first
      throw (.length 1 expected)
    | first :: second :: more =>
      let parts : NamedImport := ⟨← asText first, ← asText second⟩
      if more.isEmpty then return parts else throw (tooLong items)
  | value => .error (value.unlike "struct NamedImport")

/-- The named import as a JSON value. -/
def toJson (named : NamedImport) : Json :=
  .object [("imported", .string named.imported), ("local", .string named.localName)]

/-- The named import that a JSON value stands for; fields have no order in it. -/
def ofJson (value : Json) : Except Mismatch NamedImport := decode value.sorted

end NamedImport

namespace ImportRequest

/-- The import with these parts; the names it binds may be left out. -/
def decode : Json → Except Mismatch ImportRequest
  | .object fields => do
    let defaultBinding ← field? fields "defaultBinding" (asOption asText)
    let named ← field? fields "named" (asList NamedImport.decode)
    let specifier ← field? fields "specifier" asText
    return ⟨← required "specifier" specifier, defaultBinding.getD none, named.getD []⟩
  | .array items => do
    match items with
    | [] => throw (.length 0 "struct ImportRequest with 3 elements")
    | first :: rest =>
      let specifier ← asText first
      match rest with
      | [] => return ⟨specifier, none, []⟩
      | second :: rest =>
        let defaultBinding ← asOption asText second
        match rest with
        | [] => return ⟨specifier, defaultBinding, []⟩
        | third :: more =>
          let named ← asList NamedImport.decode third
          if more.isEmpty then return ⟨specifier, defaultBinding, named⟩
          else throw (tooLong items)
  | value => .error (value.unlike "struct ImportRequest")

/-- The import as a JSON value. -/
def toJson (request : ImportRequest) : Json :=
  .object [("specifier", .string request.specifier),
    ("defaultBinding", (request.defaultBinding.map Json.string).getD .null),
    ("named", .array (request.named.map NamedImport.toJson))]

/-- The import that a JSON value stands for; fields have no order in it. -/
def ofJson (value : Json) : Except Mismatch ImportRequest := decode value.sorted

end ImportRequest

/-- Values as a JSON value. -/
def Values.toJson (values : Values) : Json :=
  .object (values.toList.map fun (name, value) => (name, .string value))

/-- The name and the text of a field whose value is a string. -/
def textField? : String × Json → Option (String × String)
  | (name, .string text) => some (name, text)
  | _ => none

/-- The fields as values by name, if all are strings. -/
def Values.ofFields? (fields : List (String × Json)) : Option Values :=
  (fields.mapM textField?).map fun pairs => .ofList pairs

namespace BindingValue

/-- The binding that a JSON value stands for: an object of strings or a string. -/
def decode : Json → Except Mismatch BindingValue
  | .string text => .ok (.value text)
  | .object fields =>
    match Values.ofFields? fields with
    | some values => .ok (.object values)
    | none => .error (.noAlternative "BindingValue")
  | _ => .error (.noAlternative "BindingValue")

/-- The binding as a JSON value. -/
def toJson : BindingValue → Json
  | object values => Values.toJson values
  | value text => .string text

/-- The binding that a JSON value stands for; fields have no order in it. -/
def ofJson (value : Json) : Except Mismatch BindingValue := decode value.sorted

end BindingValue

namespace ConstBinding

/-- The constant with these parts. -/
def decode : Json → Except Mismatch ConstBinding
  | .object fields => do
    let localName ← field? fields "local" asText
    let value ← field? fields "value" BindingValue.decode
    return ⟨← required "local" localName, ← required "value" value⟩
  | .array items => do
    let expected := "struct ConstBinding with 2 elements"
    match items with
    | [] => throw (.length 0 expected)
    | [first] =>
      discard <| asText first
      throw (.length 1 expected)
    | first :: second :: more =>
      let parts : ConstBinding := ⟨← asText first, ← BindingValue.decode second⟩
      if more.isEmpty then return parts else throw (tooLong items)
  | value => .error (value.unlike "struct ConstBinding")

/-- The constant as a JSON value. -/
def toJson (binding : ConstBinding) : Json :=
  .object [("local", .string binding.localName), ("value", binding.value.toJson)]

/-- The constant that a JSON value stands for; fields have no order in it. -/
def ofJson (value : Json) : Except Mismatch ConstBinding := decode value.sorted

end ConstBinding

end StyleConstants
