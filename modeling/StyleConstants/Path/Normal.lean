import StyleConstants.Path.Basic

/-!
# Lexical normal form

Dots are dropped and two dots take back the name before them, without asking what exists. Two dots
at the root stay at the root; at the start of a relative path they are kept.
-/

namespace StyleConstants.Path

/-- The bytes of a component. -/
def Component.bytes : Component → List UInt8
  | root => []
  | here => [dot]
  | up => [dot, dot]
  | name bytes => bytes

/-- The path with these components, written without anything that does not count. -/
def ofComponents : List Component → Path
  | [.root] => ⟨[slash]⟩
  | components => ⟨Text.join slash (components.map Component.bytes)⟩

/-- Adds a component to normal ones, which stand in reverse order. -/
def climb (passed : List Component) (next : Component) : List Component :=
  match next with
  | .here => passed
  | .up =>
    match passed with
    | .name _ :: outer => outer
    | .root :: _ => passed
    | _ => .up :: passed
  | next => next :: passed

/-- The components of the normal form. -/
def normalComponents (components : List Component) : List Component :=
  (components.foldl climb []).reverse

/-- The normal form of a path. -/
def normalize (path : Path) : Path := ofComponents (normalComponents path.components)

/-- The normal form of the path as seen from a directory. -/
def normalizeFrom (directory path : Path) : Path := normalize (directory / path)

/-- The root directory. -/
def rootPath : Path := ⟨[slash]⟩

/-- The place that an import argument names in the directory of the importing file. -/
def importTarget (importer : Path) (argument : String) : Path :=
  normalizeFrom (importer.parent?.getD ⟨[]⟩) (ofText argument)

end StyleConstants.Path
