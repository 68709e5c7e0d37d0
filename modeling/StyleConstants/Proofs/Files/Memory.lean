import Mathlib.Data.List.Basic
import StyleConstants.Files.Memory
import StyleConstants.Proofs.Path.Ancestors

/-!
# What a tree in memory holds

Files and directories are kept apart and grow with every file added. Both are told by the additions
alone: a place holds what was added there last, and is a directory if it is the root or lies above a
place where something was added.

* `mem_directoriesAbove_iff`: the directories made for a place are its ancestors.
* `isDirectory_addAll`, `contents?_addAll_eq_some_iff`: what the additions leave behind.
* `tree_is_consistent`: what every question about a path is answered.
-/

namespace StyleConstants.MemoryTree

open StyleConstants.Path

variable {tree : MemoryTree} {path directory : Path} {bytes : List UInt8}
  {added : List (Path × List UInt8)}

/-- The tree with files added one after the other. -/
def addAll (tree : MemoryTree) (added : List (Path × List UInt8)) : MemoryTree :=
  added.foldl (fun tree file => tree.add file.1 file.2) tree

theorem addAll_concat (tree : MemoryTree) (added : List (Path × List UInt8))
    (file : Path × List UInt8) :
    tree.addAll (added ++ [file]) = (tree.addAll added).add file.1 file.2 :=
  List.foldl_concat ..

/-! ## Directories -/

theorem mem_directoriesAlong_iff {passed components : List Component} :
    directory ∈ directoriesAlong passed components ↔
      ∃ front back, components = front ++ back ∧ front ≠ [] ∧
        directory = ofComponents (passed ++ front) := by
  induction components generalizing passed with
  | nil =>
    constructor
    · exact fun h => nomatch h
    · rintro ⟨front, back, h, hfront, -⟩
      exact absurd (List.append_eq_nil_iff.1 h.symm).1 hfront
  | cons next rest ih =>
    rw [directoriesAlong, List.mem_cons, ih]
    constructor
    · rintro (rfl | ⟨front, back, rfl, -, rfl⟩)
      · exact ⟨[next], rest, rfl, List.cons_ne_nil _ _, rfl⟩
      · exact ⟨next :: front, back, rfl, List.cons_ne_nil _ _, by rw [List.append_assoc]; rfl⟩
    · rintro ⟨front, back, h, hfront, rfl⟩
      obtain ⟨first, front, rfl⟩ := List.exists_cons_of_ne_nil hfront
      obtain ⟨rfl, rfl⟩ := List.cons.inj h
      by_cases hempty : front = []
      · subst hempty
        exact .inl rfl
      · exact .inr ⟨front, back, rfl, hempty, by rw [List.append_assoc]; rfl⟩

/-- The directories made for a place are its ancestors. -/
theorem mem_directoriesAbove_iff {names : List (List UInt8)} (h : AreNames names) :
    directory ∈ directoriesAbove (ofNames names) ↔ IsAncestor directory (ofNames names) := by
  rw [isAncestor_ofNames_iff h]
  rcases List.eq_nil_or_concat names with rfl | ⟨init, last, rfl⟩
  · rw [directoriesAbove, parent?_ofNames_nil]
    constructor
    · exact fun h => nomatch h
    · rintro ⟨front, back, h, hback, -⟩
      exact absurd (List.append_eq_nil_iff.1 h.symm).2 hback
  · rw [List.concat_eq_append] at h ⊢
    rw [directoriesAbove, parent?_ofNames_concat h]
    dsimp only
    rw [components_ofNames h.of_append_left, mem_directoriesAlong_iff]
    constructor
    · rintro ⟨front, back, hsplit, hfront, rfl⟩
      obtain ⟨first, front, rfl⟩ := List.exists_cons_of_ne_nil hfront
      obtain ⟨rfl, hnames⟩ := List.cons.inj hsplit
      obtain ⟨names, others, rfl, rfl, rfl⟩ := List.map_eq_append_iff.1 hnames
      exact ⟨names, others ++ [last], List.append_assoc _ _ _, by simp, rfl⟩
    · rintro ⟨front, back, hsplit, hback, rfl⟩
      obtain ⟨back, other, rfl⟩ := (List.eq_nil_or_concat back).resolve_left hback
      rw [List.concat_eq_append, ← List.append_assoc] at hsplit
      obtain ⟨rfl, -⟩ := List.append_inj' hsplit rfl
      exact ⟨.root :: front.map .name, back.map .name, by simp, List.cons_ne_nil _ _, rfl⟩

theorem any_directoriesAbove (added path : Path) :
    (directoriesAbove (place added)).any (·.sameAs (place path)) = true ↔
      IsAncestor (place path) (place added) := by
  have hadded := areNames_route added
  have hpath := areNames_route path
  rw [place, place, normalizeFrom_rootPath_eq_ofNames, normalizeFrom_rootPath_eq_ofNames,
    List.any_eq_true]
  constructor
  · rintro ⟨directory, hdirectory, hsame⟩
    have hancestor := (mem_directoriesAbove_iff hadded).1 hdirectory
    obtain ⟨front, back, hfront, -, rfl⟩ := (isAncestor_ofNames_iff hadded).1 hancestor
    rw [hfront] at hadded
    rwa [← (ofNames_sameAs_iff hadded.of_append_left hpath).1 hsame]
  · intro h
    exact ⟨_, (mem_directoriesAbove_iff hadded).2 h, sameAs_iff.2 rfl⟩

theorem isDirectory_empty : empty.isDirectory path = true ↔ place path = rootPath := by
  have hpath := areNames_route path
  have hroot : rootPath = ofNames [] := rfl
  rw [isDirectory, empty, List.any_cons, List.any_nil, Bool.or_false, place,
    normalizeFrom_rootPath_eq_ofNames, hroot, ofNames_sameAs_iff areNames_nil hpath,
    ofNames_inj hpath areNames_nil, eq_comm]

theorem isDirectory_addAll : (tree.addAll added).isDirectory path = true ↔
    tree.isDirectory path = true ∨ ∃ file ∈ added, IsAncestor (place path) (place file.1) := by
  induction added using List.reverseRecOn with
  | nil => exact (or_iff_left fun ⟨_, hfile, _⟩ => nomatch hfile).symm
  | append_singleton added file ih =>
    rw [addAll_concat, isDirectory_add, Bool.or_eq_true, any_directoriesAbove, ih, or_comm,
      or_assoc]
    simp only [List.mem_append, List.mem_singleton, or_and_right, exists_or, exists_eq_left]

/-! ## Files -/

theorem contents?_addAll (added : List (Path × List UInt8)) (path : Path) :
    (empty.addAll added).contents? path =
      added.reverse.findSome? fun file =>
        if place path = place file.1 then some file.2 else none := by
  induction added using List.reverseRecOn with
  | nil => rfl
  | append_singleton added file ih =>
    rw [addAll_concat, contents?_add, ih, List.reverse_concat, List.findSome?_cons]
    split <;> rfl

/-- A place holds what was added there last. -/
theorem contents?_addAll_eq_some_iff : (empty.addAll added).contents? path = some bytes ↔
    ∃ earlier name later, added = earlier ++ (name, bytes) :: later ∧ place name = place path ∧
      ∀ file ∈ later, place file.1 ≠ place path := by
  rw [contents?_addAll, List.findSome?_eq_some_iff]
  constructor
  · rintro ⟨later, ⟨name, found⟩, earlier, hsplit, hfound, hlater⟩
    rw [List.reverse_eq_iff, List.reverse_append, List.reverse_cons, List.append_assoc,
      List.singleton_append] at hsplit
    rw [Option.ite_none_right_eq_some] at hfound
    obtain ⟨hplace, hbytes⟩ := hfound
    cases hbytes
    refine ⟨earlier.reverse, name, later.reverse, hsplit, hplace.symm, fun file hfile hsame => ?_⟩
    have hother := hlater file (List.mem_reverse.1 hfile)
    rw [if_pos hsame.symm] at hother
    cases hother
  · rintro ⟨earlier, name, later, rfl, hplace, hlater⟩
    refine ⟨later.reverse, (name, bytes), earlier.reverse, by simp, if_pos hplace.symm, ?_⟩
    exact fun file hfile => if_neg (Ne.symm (hlater file (List.mem_reverse.1 hfile)))

theorem read_eq_ok_iff :
    tree.fileSystem.read path = .ok bytes ↔ tree.contents? path = some bytes := by
  rw [fileSystem]
  dsimp only
  cases tree.contents? path <;> simp

/-! ## Names of places -/

theorem place_place (path : Path) : place (place path) = place path :=
  normalizeFrom_rootPath_eq_iff.2 (route_normalizeFrom_rootPath path)

/-- **A tree in memory is consistent.** After any additions to an empty tree, and for every path: a
file is read exactly if there is one, and as what was added last at its place; a directory is there
exactly if the place is the root or is met on the way up from a place where something was added;
either of the two is what makes the path exist; and the path has a name, which is the place, and by
which the same file or directory is found. -/
theorem tree_is_consistent (added : List (Path × List UInt8)) (path : Path) :
    let files := (empty.addAll added).fileSystem
    ((∃ bytes, files.read path = .ok bytes) ↔ files.isFile path = true) ∧
    (∀ bytes, files.read path = .ok bytes ↔
      ∃ earlier name later, added = earlier ++ (name, bytes) :: later ∧ place name = place path ∧
        ∀ file ∈ later, place file.1 ≠ place path) ∧
    (files.isDirectory path = true ↔
      place path = rootPath ∨ ∃ file ∈ added, IsAncestor (place path) (place file.1)) ∧
    (files.pathExists path = true ↔ files.isFile path = true ∨ files.isDirectory path = true) ∧
    (files.canonical path = place path ∧
      files.read (files.canonical path) = files.read path ∧
      files.isFile (files.canonical path) = files.isFile path ∧
      files.isDirectory (files.canonical path) = files.isDirectory path) := by
  intro files
  have hcontents : ∀ {a b : Path}, place a = place b →
      (empty.addAll added).contents? a = (empty.addAll added).contents? b := by
    intro a b h
    rw [contents?, contents?, h]
  have hplace := place_place path
  have hname : files.canonical path = place path := canonical_fileSystem _ path
  refine ⟨?_, fun bytes => read_eq_ok_iff.trans contents?_addAll_eq_some_iff, ?_, ?_, hname,
    ?_, ?_, ?_⟩
  · simp only [files, read_eq_ok_iff]
    exact Option.isSome_iff_exists.symm
  · exact isDirectory_addAll.trans (or_congr_left isDirectory_empty)
  · rw [FileSystem.pathExists, Bool.or_eq_true]
  · rw [hname]
    simp only [files, fileSystem, hcontents hplace, hplace]
  · rw [hname]
    exact congrArg Option.isSome (hcontents hplace)
  · rw [hname]
    exact congrArg (fun place => (empty.addAll added).directories.any (·.sameAs place)) hplace

end StyleConstants.MemoryTree
