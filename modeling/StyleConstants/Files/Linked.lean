import StyleConstants.Files.System
import StyleConstants.Text.Bounded

/-!
# Files on a disk, with symbolic links

A tree of directories, files and links. A path is walked name by name from the root or from the
working directory; a link on the way is replaced by its target, and two dots lead to the directory
that really lies above.

A path longer than `pathLimit` leads to nothing, but a path within the limit may lead farther than
that. The name of a file is the way to it without links, if that way stays within the limit, however
long the path itself is; otherwise it is the normal form of the path.

* `entryAt?_of_walk`: the way to a file is one at which the tree stores it.
* `canonical_of_trace`: the way to a file without links is its name.
* `exists_canonical_mem`: there are finitely many names of files.
-/

namespace StyleConstants

/-- What a directory may hold. -/
inductive LinkedTree.Entry where
  | file (bytes : List UInt8)
  | directory
  | link (target : Path)
  deriving DecidableEq, Repr

/-- The names that lead from the root to an entry, without links. -/
abbrev LinkedTree.Place := List (List UInt8)

/-- A tree of files, and the directory from which relative paths start. -/
structure LinkedTree where
  /-- The entries, those written last first. -/
  entries : List (LinkedTree.Place × LinkedTree.Entry)
  workingDirectory : LinkedTree.Place
  deriving DecidableEq, Repr

namespace LinkedTree

/-- What a path leads to. -/
inductive Found where
  | file (place : Place) (bytes : List UInt8)
  | directory (place : Place)
  deriving DecidableEq, Repr

/-- Where it was found. -/
def Found.place : Found → Place
  | file place _ => place
  | directory place => place

/-- What stands at a place; at the root stands a directory. -/
def entryAt? (tree : LinkedTree) (place : Place) : Option Entry :=
  if place.isEmpty then some .directory else tree.entries.lookup place

/-- The greatest length of a name in bytes. -/
def nameLimit : Nat := 255

/-- The greatest length of a path in bytes. -/
def pathLimit : Nat := 4095

/-- How many links may be followed on the way of one path. -/
def linkLimit : Nat := 40

/-- The absolute path of a place. -/
def pathOf (place : Place) : Path := Path.ofComponents (.root :: place.map .name)

/-- Whether the absolute path of a place stays within the limit. -/
def isNear (place : Place) : Bool := (pathOf place).bytes.length ≤ pathLimit

/-- The place at which the walk of a path starts. -/
def startOf (path : Path) (base : Place) : Place := if path.isAbsolute then [] else base

/-- Walks the pieces of a path from the directory at `place`, only over places that `mayVisit`
admits; `links` more links may be followed. -/
def walk (tree : LinkedTree) (mayVisit : Place → Bool) (links : Nat) (place : Place) :
    List (List UInt8) → Except ReadFault Found
  | [] => .ok (.directory place)
  | piece :: rest =>
    match Path.Component.ofPiece? piece with
    | some (.name name) =>
      if nameLimit < name.length ∨ mayVisit (place ++ [name]) = false then
        .error .nameTooLong
      else
        match tree.entryAt? (place ++ [name]) with
        | none => .error .noEntry
        | some .directory => walk tree mayVisit links (place ++ [name]) rest
        | some (.file bytes) =>
          if rest.isEmpty then .ok (.file (place ++ [name]) bytes) else .error .notDirectory
        | some (.link target) =>
          match links with
          | 0 => .error .tooManyLinks
          | links + 1 =>
            walk tree mayVisit links (startOf target place) (target.pieces ++ rest)
    | some .up => walk tree mayVisit links place.dropLast rest
    | _ => walk tree mayVisit links place rest
termination_by pieces => (links, pieces.length)

/-- Walks a whole path. -/
def walkPath (tree : LinkedTree) (mayVisit : Place → Bool) (path : Path) :
    Except ReadFault Found :=
  tree.walk mayVisit linkLimit (startOf path tree.workingDirectory) path.pieces

/-- What is wrong with a path whatever the tree holds. -/
def textFault? (path : Path) : Option ReadFault :=
  if path.bytes.contains 0 then some .nulCharacter
  else if path.bytes.isEmpty then some .noEntry
  else none

/-- What a path leads to. -/
def find (tree : LinkedTree) (path : Path) : Except ReadFault Found :=
  match textFault? path with
  | some fault => .error fault
  | none =>
    if pathLimit < path.bytes.length then .error .nameTooLong
    else tree.walkPath (fun _ => true) path

/-- What a path of any length leads to, if the way to it stays near. -/
def trace (tree : LinkedTree) (path : Path) : Except ReadFault Found :=
  match textFault? path with
  | some fault => .error fault
  | none => tree.walkPath isNear path

/-- The way to a file is one at which the tree stores it. -/
theorem entryAt?_of_walk {tree : LinkedTree} {mayVisit : Place → Bool} {links : Nat}
    {place reached : Place} {pieces : List (List UInt8)} {bytes : List UInt8}
    (h : tree.walk mayVisit links place pieces = .ok (.file reached bytes)) :
    tree.entryAt? reached = some (.file bytes) := by
  fun_induction walk tree mayVisit links place pieces with
  | case1 => cases h
  | case2 => cases h
  | case3 => cases h
  | case4 _ _ _ _ _ _ _ _ ih => exact ih h
  | case5 _ _ _ _ _ _ _ _ hentry _ =>
    cases h
    exact hentry
  | case6 => cases h
  | case7 => cases h
  | case8 _ _ _ _ _ _ _ _ _ ih => exact ih h
  | case9 _ _ _ _ _ ih => exact ih h
  | case10 _ _ _ _ _ _ ih => exact ih h

/-- What stands at a place is an entry, or the root. -/
theorem eq_nil_or_mem_of_entryAt? {tree : LinkedTree} {place : Place} {entry : Entry}
    (h : tree.entryAt? place = some entry) : place = [] ∨ (place, entry) ∈ tree.entries := by
  unfold entryAt? at h
  split at h
  · rename_i hroot
    exact .inl (List.isEmpty_iff.1 hroot)
  · obtain ⟨before, after, hentries, -⟩ := List.lookup_eq_some_iff.1 h
    exact .inr (by simp [hentries])

/-- What a walk reaches it reaches over more places as well. -/
theorem walk_mono {tree : LinkedTree} {mayVisit mayVisit' : Place → Bool}
    (hvisit : ∀ place entry, tree.entryAt? place = some entry → mayVisit place = true →
      mayVisit' place = true)
    {links : Nat} {place : Place} {pieces : List (List UInt8)} {found : Found}
    (h : tree.walk mayVisit links place pieces = .ok found) :
    tree.walk mayVisit' links place pieces = .ok found := by
  fun_induction walk tree mayVisit links place pieces with
  | case1 => rw [walk, ← h]
  | case2 => cases h
  | case3 => cases h
  | case4 _ _ _ _ _ hpiece hlimit hentry ih =>
    rw [not_or, Bool.not_eq_false] at hlimit
    rw [walk, hpiece]
    simp [hlimit.1, hvisit _ _ hentry hlimit.2, hentry, ih h]
  | case5 _ _ _ _ _ hpiece hlimit _ hentry hrest =>
    rw [not_or, Bool.not_eq_false] at hlimit
    rw [walk, hpiece]
    simp [hlimit.1, hvisit _ _ hentry hlimit.2, hentry, hrest, ← h]
  | case6 => cases h
  | case7 => cases h
  | case8 _ _ _ _ hpiece hlimit _ hentry _ ih =>
    rw [not_or, Bool.not_eq_false] at hlimit
    rw [walk, hpiece]
    simp [hlimit.1, hvisit _ _ hentry hlimit.2, hentry, ih h]
  | case9 _ _ _ _ hpiece ih => rw [walk, hpiece]; exact ih h
  | case10 _ _ _ _ hname hup ih =>
    rw [walk]
    split
    · rename_i hpiece
      exact absurd hpiece (hname _)
    · rename_i hpiece
      exact absurd hpiece hup
    · exact ih h

/-- Whether the path leads to a file. -/
def isFile (tree : LinkedTree) (path : Path) : Bool :=
  match tree.find path with
  | .ok (.file _ _) => true
  | _ => false

/-- Whether the path leads to a directory. -/
def isDirectory (tree : LinkedTree) (path : Path) : Bool :=
  match tree.find path with
  | .ok (.directory _) => true
  | _ => false

/-- The bytes of the file to which the path leads. -/
def read (tree : LinkedTree) (path : Path) : Except ReadFault (List UInt8) :=
  match tree.find path with
  | .ok (.file _ bytes) => .ok bytes
  | .ok (.directory _) => .error .isDirectory
  | .error fault => .error fault

/-- The name of what the path leads to. -/
def canonical (tree : LinkedTree) (path : Path) : Path :=
  match tree.trace path with
  | .ok found => pathOf found.place
  | .error _ => Path.normalizeFrom (pathOf tree.workingDirectory) path

theorem canonical_of_trace {tree : LinkedTree} {path : Path} {found : Found}
    (h : tree.trace path = .ok found) : tree.canonical path = pathOf found.place := by
  rw [canonical, h]

theorem length_le_of_isFile {tree : LinkedTree} {path : Path}
    (h : tree.isFile path = true) : path.bytes.length ≤ pathLimit := by
  unfold isFile at h
  split at h
  · rename_i hfind
    unfold find at hfind
    split at hfind
    · cases hfind
    · split at hfind
      · cases hfind
      · rename_i hlimit
        exact Nat.not_lt.1 hlimit
  · cases h

/-- A path to a file is one of finitely many, so there are finitely many names. -/
theorem exists_canonical_mem (tree : LinkedTree) :
    ∃ names : List Path, ∀ path : Path, tree.isFile path = true → tree.canonical path ∈ names := by
  obtain ⟨sequences, hsequences⟩ := Text.exists_mem_of_length_le pathLimit
  refine ⟨sequences.map fun bytes => tree.canonical ⟨bytes⟩, fun path h => ?_⟩
  exact List.mem_map.2 ⟨path.bytes, hsequences _ (length_le_of_isFile h), rfl⟩

/-- The tree as a file system. -/
def fileSystem (tree : LinkedTree) : FileSystem where
  isFile := tree.isFile
  isDirectory := tree.isDirectory
  read := tree.read
  canonical := tree.canonical
  finite := tree.exists_canonical_mem

/-! ## Writing -/

/-- The tree with an entry put at a place. -/
def put (tree : LinkedTree) (place : Place) (entry : Entry) : LinkedTree :=
  { tree with entries := (place, entry) :: tree.entries }

/-- Goes from the directory at `place` along the pieces of a path, making the directories that are
missing; nothing if something on the way is no directory. -/
def enter (tree : LinkedTree) (place : Place) : List (List UInt8) → Option (LinkedTree × Place)
  | [] => some (tree, place)
  | piece :: rest =>
    match Path.Component.ofPiece? piece with
    | some (.name name) =>
      match tree.entryAt? (place ++ [name]) with
      | none => enter (tree.put (place ++ [name]) .directory) (place ++ [name]) rest
      | some .directory => enter tree (place ++ [name]) rest
      | some (.file _) => none
      | some (.link _) =>
        match tree.walk (fun _ => true) linkLimit place [piece] with
        | .ok (.directory real) => enter tree real rest
        | _ => none
    | some .up => enter tree place.dropLast rest
    | _ => enter tree place rest

/-- Makes the directory to which the path leads, and those above it. -/
def makeDirectory (tree : LinkedTree) (path : Path) : Option LinkedTree :=
  (tree.enter (startOf path tree.workingDirectory) path.pieces).map (·.1)

/-- Writes a file of this name into the directory at `place`; a link of that name is followed,
`links` times at most. -/
def store (tree : LinkedTree) (links : Nat) (place : Place) (name : List UInt8)
    (bytes : List UInt8) : Option LinkedTree :=
  match tree.entryAt? (place ++ [name]) with
  | some .directory => none
  | some (.link target) =>
    match links with
    | 0 => none
    | links + 1 =>
      match tree.walk (fun _ => true) links (startOf target place) target.pieces.dropLast,
        target.fileName? with
      | .ok (.directory real), some name => store tree links real name bytes
      | _, _ => none
  | _ => some (tree.put (place ++ [name]) (.file bytes))

/-- Splits a path into the pieces of the directory and the name in it. -/
def splitLast (path : Path) : Option (List (List UInt8) × List UInt8) :=
  match path.pieces.getLast? with
  | some last =>
    match Path.Component.ofPiece? last with
    | some (.name name) => some (path.pieces.dropLast, name)
    | _ => none
  | none => none

/-- Writes a file, making the directories above it. -/
def writeFile (tree : LinkedTree) (path : Path) (bytes : List UInt8) : Option LinkedTree :=
  match splitLast path with
  | some (above, name) =>
    match tree.enter (startOf path tree.workingDirectory) above with
    | some (tree, place) => tree.store linkLimit place name bytes
    | none => none
  | none => none

/-- Makes a link where nothing stands, making the directories above it. -/
def makeLink (tree : LinkedTree) (path target : Path) : Option LinkedTree :=
  match splitLast path with
  | some (above, name) =>
    match tree.enter (startOf path tree.workingDirectory) above with
    | some (tree, place) =>
      if (tree.entryAt? (place ++ [name])).isSome then none
      else some (tree.put (place ++ [name]) (.link target))
    | none => none
  | none => none

/-- The tree that holds nothing but a directory, which is also the working directory. -/
def ofDirectory (path : Path) : LinkedTree :=
  match (LinkedTree.mk [] []).enter [] path.pieces with
  | some (tree, place) => { tree with workingDirectory := place }
  | none => ⟨[], []⟩

end LinkedTree

end StyleConstants
