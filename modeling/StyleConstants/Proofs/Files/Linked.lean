import Mathlib.Data.List.Basic
import StyleConstants.Files.Linked
import StyleConstants.Proofs.Path.Components

/-!
# Files and their names on a disk

A file on a disk has one place, and may be reached by many paths. If the name given to a path is the
way to its file without links, then paths with one name lead to one file, and so to one content. The
names are such if no way to an entry is too long to be named.

* `isName_of_walk`, `pathOf_injective`: places are lists of names, and their paths tell them apart.
* `isFaithful_fileSystem`: paths with one name lead to one content.
* `namesFiles_of_isNear`: files have such names where no way is too long.
* `walk_eq_walkBy`: a walk in a form that can be evaluated.
-/

namespace StyleConstants

/-- Paths to files with one name lead to one content. -/
def FileSystem.IsFaithful (files : FileSystem) : Prop :=
  ∀ a b, files.isFile a = true → files.isFile b = true → files.canonical a = files.canonical b →
    files.read a = files.read b

namespace LinkedTree

open StyleConstants.Path

variable {tree : LinkedTree}

/-- The name of a path to a file is the way to the file without links. -/
def NamesFiles (tree : LinkedTree) : Prop :=
  ∀ path place bytes, tree.find path = .ok (.file place bytes) → tree.canonical path = pathOf place

/-! ## Names of places -/

theorem components_pathOf {place : Place} (h : ∀ name ∈ place, IsName name) :
    (pathOf place).components = .root :: place.map .name := by
  refine components_ofComponents ⟨fun name hname => ?_, fun component hcomponent => ?_⟩
  · rcases List.mem_cons.1 hname with hroot | hname
    · cases hroot
    · obtain ⟨name, hmem, heq⟩ := List.mem_map.1 hname
      exact Component.name.inj heq ▸ h name hmem
  · obtain ⟨name, -, rfl⟩ := List.mem_map.1 hcomponent
    exact ⟨nofun, nofun⟩

theorem pathOf_injective {a b : Place} (ha : ∀ name ∈ a, IsName name)
    (hb : ∀ name ∈ b, IsName name) (h : pathOf a = pathOf b) : a = b := by
  have hcomponents := congrArg components h
  rw [components_pathOf ha, components_pathOf hb, List.cons.injEq] at hcomponents
  exact List.map_injective_iff.2 (fun _ _ hname => Component.name.inj hname) hcomponents.2

theorem isName_startOf {base : Place} (h : ∀ name ∈ base, IsName name) (path : Path) :
    ∀ name ∈ startOf path base, IsName name := by
  unfold startOf
  split
  · exact fun _ hname => nomatch hname
  · exact h

theorem isName_concat {place : Place} {piece last : List UInt8}
    (hplace : ∀ name ∈ place, IsName name) (hslash : slash ∉ piece)
    (hpiece : Component.ofPiece? piece = some (.name last)) :
    ∀ name ∈ place ++ [last], IsName name :=
  List.forall_mem_append.2
    ⟨hplace, List.forall_mem_singleton.2 (isName_of_ofPiece? hslash hpiece)⟩

/-- A walk leads from names to names: what is between two slashes holds none. -/
theorem isName_of_walk {mayVisit : Place → Bool} {links : Nat} {place : Place}
    {pieces : List (List UInt8)} {found : Found} (hplace : ∀ name ∈ place, IsName name)
    (hpieces : ∀ piece ∈ pieces, slash ∉ piece)
    (h : tree.walk mayVisit links place pieces = .ok found) :
    ∀ name ∈ found.place, IsName name := by
  fun_induction walk tree mayVisit links place pieces with
  | case1 =>
    cases h
    exact hplace
  | case2 => cases h
  | case3 => cases h
  | case4 links place piece rest name hpiece _ _ ih =>
    obtain ⟨hslash, hrest⟩ := List.forall_mem_cons.1 hpieces
    exact ih (isName_concat hplace hslash hpiece) hrest h
  | case5 links place piece rest name hpiece =>
    obtain ⟨hslash, -⟩ := List.forall_mem_cons.1 hpieces
    cases h
    exact isName_concat hplace hslash hpiece
  | case6 => cases h
  | case7 => cases h
  | case8 place piece rest name hpiece _ target _ links ih =>
    obtain ⟨-, hrest⟩ := List.forall_mem_cons.1 hpieces
    refine ih ?_ (List.forall_mem_append.2 ⟨fun _ => slash_notMem_of_mem_pieces, hrest⟩) h
    exact isName_startOf hplace target
  | case9 links place piece rest _ ih =>
    obtain ⟨-, hrest⟩ := List.forall_mem_cons.1 hpieces
    exact ih (fun name hname => hplace name ((List.dropLast_sublist place).subset hname)) hrest h
  | case10 links place piece rest _ _ ih => exact ih hplace (List.forall_mem_cons.1 hpieces).2 h

/-! ## What paths lead to -/

theorem walkPath_of_find {path : Path} {found : Found} (h : tree.find path = .ok found) :
    textFault? path = none ∧ tree.walkPath (fun _ => true) path = .ok found := by
  unfold find at h
  split at h
  · cases h
  · rename_i hfault
    split at h
    · cases h
    · exact ⟨hfault, h⟩

theorem exists_find_of_isFile {path : Path} (h : tree.isFile path = true) :
    ∃ place bytes, tree.find path = .ok (.file place bytes) := by
  unfold isFile at h
  split at h
  · rename_i place bytes hfind
    exact ⟨place, bytes, hfind⟩
  · cases h

theorem entryAt?_of_find {path : Path} {place : Place} {bytes : List UInt8}
    (h : tree.find path = .ok (.file place bytes)) :
    tree.entryAt? place = some (.file bytes) :=
  entryAt?_of_walk (walkPath_of_find h).2

theorem isName_of_find (hbase : ∀ name ∈ tree.workingDirectory, IsName name) {path : Path}
    {found : Found} (h : tree.find path = .ok found) : ∀ name ∈ found.place, IsName name :=
  isName_of_walk (isName_startOf hbase path) (fun _ => slash_notMem_of_mem_pieces)
    (walkPath_of_find h).2

theorem isFaithful_fileSystem (hbase : ∀ name ∈ tree.workingDirectory, IsName name)
    (hnames : tree.NamesFiles) : tree.fileSystem.IsFaithful := by
  intro a b ha hb hsame
  obtain ⟨place, bytes, hfind⟩ := exists_find_of_isFile ha
  obtain ⟨place', bytes', hfind'⟩ := exists_find_of_isFile hb
  have hpath : pathOf place = pathOf place' := by
    rw [← hnames a place bytes hfind, ← hnames b place' bytes' hfind']
    exact hsame
  obtain rfl := pathOf_injective (isName_of_find hbase hfind) (isName_of_find hbase hfind') hpath
  cases (entryAt?_of_find hfind).symm.trans (entryAt?_of_find hfind')
  change tree.read a = tree.read b
  rw [read, read, hfind, hfind']

/-- Where no way to an entry is too long, files have their ways for names. -/
theorem namesFiles_of_isNear (h : ∀ entry ∈ tree.entries, isNear entry.1 = true) :
    tree.NamesFiles := by
  have hvisit : ∀ place entry, tree.entryAt? place = some entry → isNear place = true := by
    intro place entry hentry
    rcases eq_nil_or_mem_of_entryAt? hentry with rfl | hmem
    · decide
    · exact h _ hmem
  intro path place bytes hfind
  obtain ⟨hfault, hwalk⟩ := walkPath_of_find hfind
  have htrace : tree.trace path = .ok (.file place bytes) := by
    rw [trace, hfault]
    exact walk_mono (fun place entry hentry _ => hvisit place entry hentry) hwalk
  exact canonical_of_trace htrace

/-! ## Walks that can be evaluated -/

/-- A walk up to the first link, and then wherever `follow` leads. -/
def walkOn (tree : LinkedTree) (mayVisit : Place → Bool)
    (follow : Place → List (List UInt8) → Except ReadFault Found) (place : Place) :
    List (List UInt8) → Except ReadFault Found
  | [] => .ok (.directory place)
  | piece :: rest =>
    match Component.ofPiece? piece with
    | some (.name name) =>
      if nameLimit < name.length ∨ mayVisit (place ++ [name]) = false then
        .error .nameTooLong
      else
        match tree.entryAt? (place ++ [name]) with
        | none => .error .noEntry
        | some .directory => walkOn tree mayVisit follow (place ++ [name]) rest
        | some (.file bytes) =>
          if rest.isEmpty then .ok (.file (place ++ [name]) bytes) else .error .notDirectory
        | some (.link target) => follow (startOf target place) (target.pieces ++ rest)
    | some .up => walkOn tree mayVisit follow place.dropLast rest
    | _ => walkOn tree mayVisit follow place rest

/-- A walk by recursion on the number of links, and between links on the pieces. -/
def walkBy (tree : LinkedTree) (mayVisit : Place → Bool) :
    Nat → Place → List (List UInt8) → Except ReadFault Found
  | 0 => tree.walkOn mayVisit fun _ _ => .error .tooManyLinks
  | links + 1 => tree.walkOn mayVisit (walkBy tree mayVisit links)

/-- How a walk goes on behind a link if so many links may be followed. -/
def walkBehind (tree : LinkedTree) (mayVisit : Place → Bool) :
    Nat → Place → List (List UInt8) → Except ReadFault Found
  | 0 => fun _ _ => .error .tooManyLinks
  | links + 1 => tree.walk mayVisit links

theorem walk_eq_walkOn (tree : LinkedTree) (mayVisit : Place → Bool) (links : Nat) (place : Place)
    (pieces : List (List UInt8)) : tree.walk mayVisit links place pieces =
      tree.walkOn mayVisit (tree.walkBehind mayVisit links) place pieces := by
  induction pieces generalizing place with
  | nil => rw [walk, walkOn]
  | cons piece rest ih =>
    rw [walk, walkOn]
    simp only [ih]
    cases links <;> rfl

theorem walk_eq_walkBy (tree : LinkedTree) (mayVisit : Place → Bool) (links : Nat) :
    tree.walk mayVisit links = tree.walkBy mayVisit links := by
  induction links with
  | zero =>
    funext place pieces
    exact walk_eq_walkOn tree mayVisit 0 place pieces
  | succ links ih =>
    funext place pieces
    rw [walk_eq_walkOn, walkBehind, ih, walkBy]

/-- What a path leads to, by such a walk. -/
def findBy (tree : LinkedTree) (path : Path) : Except ReadFault Found :=
  match textFault? path with
  | some fault => .error fault
  | none =>
    if pathLimit < path.bytes.length then .error .nameTooLong
    else
      tree.walkBy (fun _ => true) linkLimit (startOf path tree.workingDirectory) path.pieces

theorem find_eq_findBy (tree : LinkedTree) : tree.find = tree.findBy := by
  funext path
  unfold find findBy
  cases textFault? path with
  | some fault => rfl
  | none =>
    dsimp only
    rw [walkPath, walk_eq_walkBy]

/-- Whether a file was found. -/
def isFound : Except ReadFault Found → Bool
  | .ok (.file _ _) => true
  | _ => false

theorem isFile_eq_isFound (tree : LinkedTree) :
    tree.fileSystem.isFile = fun path => isFound (tree.findBy path) := by
  funext path
  have hfind : tree.fileSystem.isFile path = isFound (tree.find path) := rfl
  rw [hfind, find_eq_findBy]

end LinkedTree

end StyleConstants
