import Std.Data.ExtTreeSet
import StyleConstants.Source
import StyleConstants.Stylesheet.Parse

/-!
# The variables that an import closure declares

Starting from one file, imports are followed depth first, in the order in which they stand. A file
is read when its name is met first and passed over when it is met again, under whatever spelling.
The search ends because the files have finitely many names.

* `unread_lt_of_isFile`: reading a file that was not read leaves fewer files to read.
-/

namespace StyleConstants

/-- Names in ascending order. -/
abbrev NameSet := Std.ExtTreeSet String

/-- What a search has found: the names declared in the files read, and the paths under which the
files were read, the last one first. -/
structure Closure where
  names : NameSet
  read : List Path

namespace Closure

/-- Nothing read. -/
def empty : Closure := ⟨∅, []⟩

/-- Whether the file of this name was read. -/
def hasRead (files : FileSystem) (found : Closure) (name : Path) : Bool :=
  found.read.any fun path => files.canonical path == name

/-- How many of the file names were not read. -/
noncomputable def unread (files : FileSystem) (found : Closure) : Nat :=
  files.names.countP fun name => !found.hasRead files name

/-- The findings after reading one more file. -/
def afterReading (found : Closure) (path : Path) : Closure :=
  { found with read := path :: found.read }

/-- The findings with more names declared. -/
def declare (found : Closure) (names : List String) : Closure :=
  { found with names := found.names.insertMany names }

theorem hasRead_afterReading {files : FileSystem} {found : Closure} {path name : Path} :
    (found.afterReading path).hasRead files name =
      (files.canonical path == name || found.hasRead files name) := rfl

theorem countP_lt_of_mem {α : Type} {p q : α → Bool} {a : α} {items : List α}
    (hle : ∀ x, q x = true → p x = true) (hmem : a ∈ items) (hp : p a = true)
    (hq : q a = false) : items.countP q < items.countP p := by
  induction items with
  | nil => cases hmem
  | cons b rest ih =>
    have hrest : rest.countP q ≤ rest.countP p := List.countP_mono_left fun x _ => hle x
    rcases List.mem_cons.1 hmem with rfl | hmem
    · rw [List.countP_cons, List.countP_cons, if_pos hp, if_neg (by simp [hq])]
      omega
    · have hlt := ih hmem
      rw [List.countP_cons, List.countP_cons]
      by_cases hb : q b = true
      · rw [if_pos hb, if_pos (hle b hb)]
        omega
      · rw [if_neg hb]
        split <;> omega

/-- Reading a file that was not read leaves fewer names of a list that has its name. -/
theorem countP_hasRead_lt {files : FileSystem} {found : Closure} {path : Path} {names : List Path}
    (hmem : files.canonical path ∈ names)
    (hread : found.hasRead files (files.canonical path) = false) :
    (names.countP fun name => !(found.afterReading path).hasRead files name) <
      names.countP fun name => !found.hasRead files name := by
  refine countP_lt_of_mem (a := files.canonical path) ?_ hmem ?_ ?_
  · intro name hname
    rw [hasRead_afterReading] at hname
    simp only [Bool.not_or, Bool.and_eq_true] at hname
    exact hname.2
  · simp [hread]
  · simp [hasRead_afterReading]

theorem unread_lt_of_isFile {files : FileSystem} {found : Closure} {path : Path}
    (hfile : files.isFile path = true)
    (hread : found.hasRead files (files.canonical path) = false) :
    (found.afterReading path).unread files < found.unread files :=
  countP_hasRead_lt (FileSystem.canonical_mem hfile) hread

/-- Follows the paths in order, each with the imports of the file it leads to before the next. The
first fault ends the search. -/
def follow (files : FileSystem) (found : Closure) :
    List Path → Closure × Option Failure
  | [] => (found, none)
  | path :: pending =>
    match _hsource : Source.resolve files.isFile path with
    | .error fault => (found, some fault)
    | .ok source =>
      if _hread : found.hasRead files (files.canonical source.path) then
        follow files found pending
      else
        match files.readText source.path with
        | .error fault => (found.afterReading source.path, some (.unreadable source.path fault))
        | .ok text =>
          match Stylesheet.parse source.dialect text with
          | .error rejection =>
            (found.afterReading source.path, some (.parse source.path rejection))
          | .ok sheet =>
            follow files ((found.afterReading source.path).declare sheet.variableNames)
              (sheet.imports.map source.path.importTarget ++ pending)
termination_by pending => (found.unread files, pending.length)
decreasing_by
  · exact Prod.Lex.right _ (Nat.lt_succ_self _)
  · exact Prod.Lex.left _ _
      (unread_lt_of_isFile (Source.isFile_of_resolve _hsource) (by simpa using _hread))

end Closure

/-- What a search from one path finds, and the fault that ended it, if there was one. -/
def FileSystem.search (files : FileSystem) (path : Path) : Closure × Option Failure :=
  Closure.follow files .empty [path]

/-- The names of all variables declared at the top level of the file that a path means and of the
files it imports, directly or through others. -/
def FileSystem.declaredNames (files : FileSystem) (path : Path) : Except Failure NameSet :=
  match files.search path with
  | (found, none) => .ok found.names
  | (_, some fault) => .error fault

end StyleConstants
