import StyleConstants.Text.Split
import StyleConstants.Text.Utf8

/-!
# Paths

A path is a sequence of bytes in which slashes separate components. They are kept as they were
written, for they show up in messages and in what is sent to the compiler; what a path addresses
depends on its components alone, in which empty pieces and dots (but for a dot at the very start) do
not count.

The bytes need not spell a text. Where a text is wanted, what spells no character is replaced.

* `sameAs_iff`: two paths address the same place in every tree if their components are equal.
-/

namespace StyleConstants

/-- A path, as written. -/
structure Path where
  bytes : List UInt8
  deriving DecidableEq, Repr

namespace Path

/-- The byte between components. -/
def slash : UInt8 := 0x2F

/-- The byte in front of an extension. -/
def dot : UInt8 := 0x2E

/-- The path that is spelled by a text. -/
def ofText (text : String) : Path := ⟨Text.Utf8.encode text.toList⟩

/-- The text for a path, with replacements for what spells no character. -/
def text (path : Path) : String := String.ofList (Text.Utf8.decodeLossy path.bytes)

/-- The text that spells the path, if one does. -/
def text? (path : Path) : Option String :=
  if ofText path.text = path then some path.text else none

/-- A component of a path. -/
inductive Component where
  | root
  /-- The dot that a relative path may start with. -/
  | here
  /-- Two dots. -/
  | up
  | name (bytes : List UInt8)
  deriving DecidableEq, Repr

/-- What stands between the slashes. -/
def pieces (path : Path) : List (List UInt8) := Text.split slash path.bytes

/-- The component that a piece after a slash stands for, if it counts. -/
def Component.ofPiece? (piece : List UInt8) : Option Component :=
  if piece = [] ∨ piece = [dot] then none
  else if piece = [dot, dot] then some up
  else some (name piece)

/-- The component that the piece before the first slash stands for. An empty one is the root if a
slash follows it. -/
def Component.ofFirst? (piece : List UInt8) (followed : Bool) : Option Component :=
  if piece.isEmpty then
    if followed then some root else none
  else if piece = [dot] then some here
  else ofPiece? piece

/-- The components of the path with these pieces. -/
def componentsOf : List (List UInt8) → List Component
  | [] => []
  | first :: rest =>
    (Component.ofFirst? first (!rest.isEmpty)).toList ++ rest.filterMap Component.ofPiece?

/-- The components of a path. -/
def components (path : Path) : List Component := componentsOf path.pieces

/-- Whether two spellings have the same components. -/
def sameAs (a b : Path) : Bool := a.components == b.components

theorem sameAs_iff {a b : Path} : a.sameAs b = true ↔ a.components = b.components := by
  simp [sameAs]

/-- Whether the path starts at the root. -/
def isAbsolute (path : Path) : Bool := path.bytes.head? == some slash

/-- The name at the end of the path, if its last component is a name. -/
def fileName? (path : Path) : Option (List UInt8) :=
  match path.components.getLast? with
  | some (.name bytes) => some bytes
  | _ => none

/-- Whether a piece after a slash does not count. -/
def isVoid (piece : List UInt8) : Bool := (Component.ofPiece? piece).isNone

/-- The pieces without those at the end that do not count. -/
def dropVoidEnd (pieces : List (List UInt8)) : List (List UInt8) :=
  (pieces.reverse.dropWhile isVoid).reverse

/-- The path with these pieces, of which the first stands before the first slash. -/
def ofPieces (first : List UInt8) (rest : List (List UInt8)) : Path :=
  if first.isEmpty ∧ rest.isEmpty then ⟨[slash]⟩
  else ⟨Text.join slash (first :: rest)⟩

/-- The path without its last component. The root and the empty path have no parent; the parent of
a single name is the empty path. -/
def parent? (path : Path) : Option Path :=
  match path.pieces with
  | [] => none
  | first :: rest =>
    let counted := dropVoidEnd rest
    if counted.isEmpty then
      if first.isEmpty then none else some ⟨[]⟩
    else some (ofPieces first (dropVoidEnd counted.dropLast))

/-- The path followed by another; an absolute one replaces it. -/
def append (base other : Path) : Path :=
  if other.isAbsolute then other
  else if base.bytes.isEmpty ∨ base.bytes.getLast? = some slash then ⟨base.bytes ++ other.bytes⟩
  else ⟨base.bytes ++ slash :: other.bytes⟩

instance : HDiv Path Path Path := ⟨append⟩

/-- Cuts a file name at its last dot: what stands before it and what after it. A name with nothing
before its last dot is not cut. -/
def splitName (name : List UInt8) : List UInt8 × Option (List UInt8) :=
  let after := (name.reverse.takeWhile (· ≠ dot)).reverse
  let before := (name.reverse.dropWhile (· ≠ dot)).reverse
  match before.dropLast with
  | [] => (name, none)
  | stem => (stem, some after)

/-- The extension of the file name, as a text. -/
def extension? (path : Path) : Option String :=
  match path.fileName? with
  | some name =>
    (splitName name).2.map fun extension => String.ofList (Text.Utf8.decodeLossy extension)
  | none => none

/-- A file name with another extension. -/
def renamedTo (extension : String) (name : List UInt8) : List UInt8 :=
  (splitName name).1 ++ dot :: Text.Utf8.encode extension.toList

/-- The path with another extension on its file name; what does not count after the name is
dropped. A path without a file name stays as it is. -/
def withExtension (path : Path) (extension : String) : Path :=
  match path.fileName?, path.pieces with
  | some name, first :: rest =>
    let counted := dropVoidEnd rest
    if counted.isEmpty then ⟨renamedTo extension name⟩
    else ofPieces first (counted.dropLast ++ [renamedTo extension name])
  | _, _ => path

/-- The path with another file name; a path without a file name gets one. -/
def withFileName (path : Path) (name : List UInt8) : Path :=
  match path.fileName?, path.parent? with
  | some _, some parent => parent / ⟨name⟩
  | _, _ => path / ⟨name⟩

end Path

end StyleConstants
