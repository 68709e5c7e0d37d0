import StyleConstants.Stylesheet.Import

/-!
# Nodes of a stylesheet

A stylesheet is the list of its top-level statements in source order. What stands inside a block
never becomes a node.
-/

namespace StyleConstants

/-- A top-level variable declaration: the name without its dollar sign, the value without its
flags, and the flags. -/
structure Stylesheet.Variable where
  name : String
  value : String
  isDefault : Bool
  isGlobal : Bool
  deriving DecidableEq, Repr

/-- A directive: what follows the at sign, up to its block or its end. -/
structure Stylesheet.AtRule where
  keyword : String
  params : String
  hasBlock : Bool
  deriving DecidableEq, Repr

/-- A top-level statement. -/
inductive Stylesheet.Item where
  | variable (declaration : Stylesheet.Variable)
  | atRule (rule : Stylesheet.AtRule)
  /-- Any other statement with a block, such as a style rule. -/
  | rule (prelude : String)
  /-- Any other statement without a block. -/
  | statement (text : String)
  deriving DecidableEq, Repr

/-- A top-level statement and the line it starts on. -/
structure Stylesheet.Node where
  line : Nat
  item : Stylesheet.Item
  deriving DecidableEq, Repr

/-- The top-level statements of a file in source order. -/
structure Stylesheet where
  nodes : List Stylesheet.Node
  deriving DecidableEq, Repr

namespace Stylesheet

/-- The file that the rule imports, if it is an import of a single file. -/
def AtRule.importPath (rule : AtRule) : Option String :=
  if rule.keyword = "import" ∧ rule.hasBlock = false then
    (importTarget rule.params.toList).map String.ofList
  else none

/-- The declaration that the item is, if it is one. -/
def Item.variable? : Item → Option Variable
  | .variable declaration => some declaration
  | _ => none

/-- The file that the item imports, if it imports one. -/
def Item.import? : Item → Option String
  | .atRule directive => directive.importPath
  | _ => none

/-- The names of the variables declared at the top level. -/
def variableNames (sheet : Stylesheet) : List String :=
  sheet.nodes.filterMap fun node => node.item.variable?.map (·.name)

/-- The files that the sheet imports. -/
def imports (sheet : Stylesheet) : List String :=
  sheet.nodes.filterMap (·.item.import?)

end Stylesheet

end StyleConstants
