import StyleConstants.Files.System

/-!
# Files held in memory

Files are stored under the normal form of their path as seen from the root. Adding a file makes the
directories above it, which are kept apart from the files. There are no links, so the normal form is
also the one name of a file.

* `contents?_add`: a file is what was last added under its normal path.
* `isDirectory_add`: adding a file makes the directories above it and leaves the others.
-/

namespace StyleConstants

/-- Files by their normal paths, the one added last first, and the directories made for them. -/
structure MemoryTree where
  files : List (Path × List UInt8)
  directories : List Path
  deriving DecidableEq, Repr

namespace MemoryTree

/-- No files, and the root as the only directory. -/
def empty : MemoryTree := ⟨[], [Path.rootPath]⟩

/-- The path under which a file is stored. -/
def place (path : Path) : Path := Path.normalizeFrom Path.rootPath path

/-- The directories on the way along `components`, behind those `passed`. -/
def directoriesAlong (passed : List Path.Component) : List Path.Component → List Path
  | [] => []
  | next :: rest =>
    Path.ofComponents (passed ++ [next]) :: directoriesAlong (passed ++ [next]) rest

/-- The directories above a place, the root first. -/
def directoriesAbove (place : Path) : List Path :=
  match place.parent? with
  | some parent => directoriesAlong [] parent.components
  | none => []

/-- Adds a file or replaces it, and makes the directories above it. -/
def add (tree : MemoryTree) (path : Path) (bytes : List UInt8) : MemoryTree :=
  ⟨(place path, bytes) :: tree.files, directoriesAbove (place path) ++ tree.directories⟩

/-- The bytes of the file to which the path leads. -/
def contents? (tree : MemoryTree) (path : Path) : Option (List UInt8) :=
  tree.files.lookup (place path)

/-- Whether the path leads to a directory. -/
def isDirectory (tree : MemoryTree) (path : Path) : Bool :=
  tree.directories.any (·.sameAs (place path))

theorem contents?_add (tree : MemoryTree) (added path : Path) (bytes : List UInt8) :
    (tree.add added bytes).contents? path =
      if place path = place added then some bytes else tree.contents? path := by
  simp only [contents?, add, List.lookup_cons]
  by_cases h : place path = place added
  · simp [h]
  · rw [beq_eq_false_iff_ne.2 h, if_neg h]

theorem isDirectory_add (tree : MemoryTree) (added path : Path) (bytes : List UInt8) :
    (tree.add added bytes).isDirectory path =
      ((directoriesAbove (place added)).any (·.sameAs (place path)) || tree.isDirectory path) :=
  List.any_append

theorem mem_of_contents? {tree : MemoryTree} {path : Path}
    (h : (tree.contents? path).isSome = true) : place path ∈ tree.files.map (·.1) := by
  obtain ⟨bytes, h⟩ := Option.isSome_iff_exists.1 h
  obtain ⟨before, after, hfiles, _⟩ := List.lookup_eq_some_iff.1 h
  simp [hfiles]

/-- The tree as a file system. -/
def fileSystem (tree : MemoryTree) : FileSystem where
  isFile path := (tree.contents? path).isSome
  isDirectory := tree.isDirectory
  read path :=
    match tree.contents? path with
    | some bytes => .ok bytes
    | none => .error (.absent (place path))
  canonical := place
  finite := ⟨tree.files.map (·.1), fun _ h => mem_of_contents? h⟩

theorem canonical_fileSystem (tree : MemoryTree) (path : Path) :
    tree.fileSystem.canonical path = place path := by
  rw [fileSystem]

end MemoryTree

end StyleConstants
