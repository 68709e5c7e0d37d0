import StyleConstants.Path.Normal
import StyleConstants.Text.Utf8

/-!
# File systems

What the engine needs of the place where stylesheets are kept, at one moment: which paths lead to a
file or a directory, what a file holds, and a name for each file. The files have finitely many
names, so that following imports from file to file ends.

* `FileSystem.readText_of_read`: a file is read as the text that its bytes spell.
* `FileSystem.canonical_mem`: the name of a file is one of the finitely many.
-/

namespace StyleConstants

/-- Why a file cannot be read. -/
inductive ReadFault where
  /-- Nothing is stored under this normal path. -/
  | absent (path : Path)
  /-- The path leads to nothing. -/
  | noEntry
  /-- Something on the way is no directory. -/
  | notDirectory
  /-- The path leads to a directory. -/
  | isDirectory
  /-- The path or one of its names is longer than a file system allows. -/
  | nameTooLong
  /-- Following links did not come to an end. -/
  | tooManyLinks
  /-- The path holds a NUL character. -/
  | nulCharacter
  /-- The bytes are not a text. -/
  | notText (fault : Text.Utf8.Fault)
  deriving DecidableEq, Repr

/-- The wording of a fault. -/
def ReadFault.message : ReadFault → String
  | absent path => s!"Path not found: {path.text}"
  | noEntry => "No such file or directory (os error 2)"
  | notDirectory => "Not a directory (os error 20)"
  | isDirectory => "Is a directory (os error 21)"
  | nameTooLong => "File name too long (os error 36)"
  | tooManyLinks => "Too many levels of symbolic links (os error 40)"
  | nulCharacter => "file name contained an unexpected NUL byte"
  | notText fault => s!"Invalid UTF-8 in file: {fault.message}"

/-- The files that can be seen at one moment. -/
structure FileSystem where
  isFile : Path → Bool
  isDirectory : Path → Bool
  read : Path → Except ReadFault (List UInt8)
  /-- The name of what the path leads to. -/
  canonical : Path → Path
  /-- The names of all files fit into a list. -/
  finite : ∃ names : List Path, ∀ path : Path, isFile path = true → canonical path ∈ names

namespace FileSystem

/-- A list that holds the names of all files. -/
noncomputable def names (files : FileSystem) : List Path := files.finite.choose

theorem canonical_mem {files : FileSystem} {path : Path} (h : files.isFile path = true) :
    files.canonical path ∈ files.names :=
  files.finite.choose_spec path h

/-- Whether the path leads to anything. -/
def pathExists (files : FileSystem) (path : Path) : Bool :=
  files.isFile path || files.isDirectory path

/-- The text of a file. -/
def readText (files : FileSystem) (path : Path) : Except ReadFault (List Char) :=
  match files.read path with
  | .error fault => .error fault
  | .ok bytes =>
    match Text.Utf8.decode bytes with
    | .ok text => .ok text
    | .error fault => .error (.notText fault)

theorem readText_of_read {files : FileSystem} {path : Path} {bytes : List UInt8}
    (h : files.read path = .ok bytes) :
    files.readText path = (Text.Utf8.decode bytes).mapError .notText := by
  simp only [readText, h]
  cases Text.Utf8.decode bytes <;> rfl

end FileSystem

end StyleConstants
