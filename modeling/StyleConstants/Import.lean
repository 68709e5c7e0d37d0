import StyleConstants.Engine
import StyleConstants.Text.Search

/-!
# Replacing imports of stylesheets by constants

A host that compiles modules replaces an import of a stylesheet by constant declarations. It says
what is imported, and gets the constants to declare. An import of anything else is left alone.
-/

namespace StyleConstants

/-- One name of an import: the name imported and the name it is bound to. -/
structure NamedImport where
  imported : String
  localName : String
  deriving DecidableEq, Repr

/-- A name that is bound to itself. -/
def NamedImport.same (name : String) : NamedImport := ⟨name, name⟩

/-- An import as the host sees it. -/
structure ImportRequest where
  specifier : String
  defaultBinding : Option String
  named : List NamedImport
  deriving DecidableEq, Repr

/-- What a constant is bound to. -/
inductive BindingValue where
  /-- All variables, by name. -/
  | object (values : Values)
  /-- The value of one variable. -/
  | value (text : String)

/-- A constant to declare. -/
structure ConstBinding where
  localName : String
  value : BindingValue

/-- Whether a module specifier refers to a stylesheet: the extension may be followed by more. -/
def isStylesheet (specifier : String) : Bool :=
  Text.occursIn ".scss".toList specifier.toList || Text.occursIn ".sass".toList specifier.toList

namespace Engine

/-- The constants for the named imports, by the values they are bound to. -/
def bindNamed (values : Values) : List NamedImport → Except Failure (List ConstBinding)
  | [] => .ok []
  | named :: rest =>
    match values[named.imported]? with
    | none => .error (.caseMismatch [named.imported])
    | some value =>
      match bindNamed values rest with
      | .error fault => .error fault
      | .ok bindings => .ok (⟨named.localName, .value value⟩ :: bindings)

/-- The constant for the default import, if there is one. -/
def defaultConstants (engine : Engine) (state : State) (target : Path) :
    Option String → Except Failure (List ConstBinding) × State
  | none => (.ok [], state)
  | some localName =>
    match engine.allValues state target with
    | (.error fault, state) => (.error fault, state)
    | (.ok values, state) => (.ok [⟨localName, .object values⟩], state)

/-- The constants for the named imports, which are asked for together. -/
def namedConstants (engine : Engine) (state : State) (target : Path) (named : List NamedImport) :
    Except Failure (List ConstBinding) × State :=
  if named.isEmpty then (.ok [], state)
  else
    match engine.namedValues state target (named.map (·.imported)) with
    | (.error fault, state) => (.error fault, state)
    | (.ok values, state) => (bindNamed values named, state)

/-- The constants that replace an import in the file `importer`; none if what is imported is no
stylesheet. -/
def importConstants (engine : Engine) (state : State) (importer : Path) (request : ImportRequest) :
    Except Failure (Option (List ConstBinding)) × State :=
  if isStylesheet request.specifier then
    let target := importer.importTarget request.specifier
    match engine.defaultConstants state target request.defaultBinding with
    | (.error fault, state) => (.error fault, state)
    | (.ok bindings, state) =>
      match engine.namedConstants state target request.named with
      | (.error fault, state) => (.error fault, state)
      | (.ok more, state) => (.ok (some (bindings ++ more)), state)
  else (.ok none, state)

/-- The object that replaces a call that loads a stylesheet in the file `importer`; none if what is
loaded is no stylesheet. -/
def requireValues (engine : Engine) (state : State) (importer : Path) (specifier : String) :
    Except Failure (Option Values) × State :=
  if isStylesheet specifier then
    match engine.allValues state (importer.importTarget specifier) with
    | (.error fault, state) => (.error fault, state)
    | (.ok values, state) => (.ok (some values), state)
  else (.ok none, state)

end Engine

end StyleConstants
