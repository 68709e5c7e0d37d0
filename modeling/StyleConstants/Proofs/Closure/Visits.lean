import Mathlib.Data.List.Dedup
import Mathlib.Data.List.Perm.Subperm
import StyleConstants.Files.Memory
import StyleConstants.Proofs.Closure.Search

/-!
# What a search reads

To visit a file is to read and parse it and then to visit what it imports, one after the other,
before anything else is visited. A file that was read before is passed over. So visits are nested at
most one level deeper than there are files, whatever these import, and no file is read twice.

* `Visits`: visits as they are nested, with the paths under which files are read and parsed.
* `Visits.follow_eq`, `Visits.search_eq`: the search that keeps a list of pending paths makes these
  visits.
* `exists_visits`: visits come to an end if they may be nested deeper than there are files to read.
* `MemoryTree.search_reads_once`: every search ends and reads and parses each file at most once.
-/

namespace StyleConstants

namespace Closure

variable {files : FileSystem} {depth : Nat} {found later : Closure} {path : Path}
  {paths reads parses : List Path} {source : Source} {sheet : Stylesheet} {fault : Option Failure}

/-- The path means this file, and the file was not read. -/
structure Meets (files : FileSystem) (found : Closure) (path : Path) (source : Source) : Prop where
  resolved : Source.resolve files.isFile path = .ok source
  unread : found.hasRead files (files.canonical source.path) = false

/-- Visits to `paths` in this order, nested at most `depth` deep. They start with the findings
`found`, read and parse the files under the paths `reads` and `parses`, and end with the findings
`later` and with the fault, if there is one. -/
inductive Visits (files : FileSystem) :
    Nat → Closure → List Path → List Path → List Path → Closure → Option Failure → Prop
  | done {depth : Nat} {found : Closure} : Visits files depth found [] [] [] found none
  | unresolved {depth : Nat} {found : Closure} {path : Path} {paths : List Path}
      {fault : Failure} :
    Source.resolve files.isFile path = .error fault →
    Visits files (depth + 1) found (path :: paths) [] [] found (some fault)
  | passed {depth : Nat} {found later : Closure} {path : Path} {paths reads parses : List Path}
      {source : Source} {fault : Option Failure} :
    Source.resolve files.isFile path = .ok source →
    found.hasRead files (files.canonical source.path) = true →
    Visits files (depth + 1) found paths reads parses later fault →
    Visits files (depth + 1) found (path :: paths) reads parses later fault
  | unreadable {depth : Nat} {found : Closure} {path : Path} {paths : List Path}
      {source : Source} {fault : ReadFault} :
    Meets files found path source → files.readText source.path = .error fault →
    Visits files (depth + 1) found (path :: paths) [source.path] []
      (found.afterReading source.path) (some (.unreadable source.path fault))
  | unparsed {depth : Nat} {found : Closure} {path : Path} {paths : List Path}
      {source : Source} {text : List Char} {rejection : Stylesheet.Rejection} :
    Meets files found path source → files.readText source.path = .ok text →
    Stylesheet.parse source.dialect text = .error rejection →
    Visits files (depth + 1) found (path :: paths) [source.path] [source.path]
      (found.afterReading source.path) (some (.parse source.path rejection))
  | stopped {depth : Nat} {found later : Closure} {path : Path} {paths reads parses : List Path}
      {source : Source} {sheet : Stylesheet} {fault : Failure} :
    Meets files found path source → Holds files source sheet →
    Visits files depth ((found.afterReading source.path).declare sheet.variableNames)
      (sheet.imports.map source.path.importTarget) reads parses later (some fault) →
    Visits files (depth + 1) found (path :: paths) (source.path :: reads) (source.path :: parses)
      later (some fault)
  | followed {depth : Nat} {found middle later : Closure} {path : Path}
      {paths reads parses reads' parses' : List Path} {source : Source} {sheet : Stylesheet}
      {fault : Option Failure} :
    Meets files found path source → Holds files source sheet →
    Visits files depth ((found.afterReading source.path).declare sheet.variableNames)
      (sheet.imports.map source.path.importTarget) reads parses middle none →
    Visits files (depth + 1) middle paths reads' parses' later fault →
    Visits files (depth + 1) found (path :: paths) (source.path :: (reads ++ reads'))
      (source.path :: (parses ++ parses')) later fault

/-! ## The search with pending paths -/

theorem follow_of_unresolved {fault : Failure} {pending : List Path}
    (h : Source.resolve files.isFile path = .error fault) :
    follow files found (path :: pending) = (found, some fault) := by
  rw [follow]
  split
  · rename_i fault' hfault
    cases h.symm.trans hfault
    rfl
  · rename_i source hsource
    cases h.symm.trans hsource

theorem follow_of_resolved {pending : List Path}
    (h : Source.resolve files.isFile path = .ok source) :
    follow files found (path :: pending) =
      if found.hasRead files (files.canonical source.path) then follow files found pending
      else
        match files.readText source.path with
        | .error fault => (found.afterReading source.path, some (.unreadable source.path fault))
        | .ok text =>
          match Stylesheet.parse source.dialect text with
          | .error rejection =>
            (found.afterReading source.path, some (.parse source.path rejection))
          | .ok sheet =>
            follow files ((found.afterReading source.path).declare sheet.variableNames)
              (sheet.imports.map source.path.importTarget ++ pending) := by
  rw [follow]
  split
  · rename_i fault hfault
    cases h.symm.trans hfault
  · rename_i source' hsource
    cases h.symm.trans hsource
    rfl

namespace Meets

variable (h : Meets files found path source) {pending : List Path}

include h

theorem follow_of_unreadable {fault : ReadFault}
    (htext : files.readText source.path = .error fault) :
    follow files found (path :: pending) =
      (found.afterReading source.path, some (.unreadable source.path fault)) := by
  rw [follow_of_resolved h.resolved, h.unread, htext]
  rfl

theorem follow_of_unparsed {text : List Char} {rejection : Stylesheet.Rejection}
    (htext : files.readText source.path = .ok text)
    (hsheet : Stylesheet.parse source.dialect text = .error rejection) :
    follow files found (path :: pending) =
      (found.afterReading source.path, some (.parse source.path rejection)) := by
  rw [follow_of_resolved h.resolved, h.unread, htext]
  dsimp only
  rw [hsheet]
  rfl

theorem follow_of_holds (hholds : Holds files source sheet) :
    follow files found (path :: pending) =
      follow files ((found.afterReading source.path).declare sheet.variableNames)
        (sheet.imports.map source.path.importTarget ++ pending) := by
  obtain ⟨text, htext, hsheet⟩ := hholds
  rw [follow_of_resolved h.resolved, h.unread, htext]
  dsimp only
  rw [hsheet]
  rfl

end Meets

/-- The search that keeps a list of pending paths makes the visits one after the other. -/
theorem Visits.follow_eq (h : Visits files depth found paths reads parses later fault)
    (pending : List Path) : follow files found (paths ++ pending) =
      fault.elim (follow files later pending) fun fault => (later, some fault) := by
  induction h generalizing pending with
  | done => rfl
  | unresolved hsource => exact follow_of_unresolved hsource
  | passed hsource hread _ ih =>
    rw [List.cons_append, follow_of_resolved hsource, if_pos hread, ih]
  | unreadable hmeets htext => exact hmeets.follow_of_unreadable htext
  | unparsed hmeets htext hsheet => exact hmeets.follow_of_unparsed htext hsheet
  | stopped hmeets hholds _ ih =>
    rw [List.cons_append, hmeets.follow_of_holds hholds, ih]
    rfl
  | followed hmeets hholds _ _ ih ihrest =>
    rw [List.cons_append, hmeets.follow_of_holds hholds, ih, Option.elim_none, ihrest]

theorem Visits.search_eq {entry : Path}
    (h : Visits files depth .empty [entry] reads parses found fault) :
    files.search entry = (found, fault) := by
  rw [FileSystem.search, ← List.append_nil [entry], h.follow_eq]
  cases fault with
  | none => rw [Option.elim_none, follow]
  | some fault => rfl

/-! ## What is read and parsed -/

theorem hasRead_iff {name : Path} :
    found.hasRead files name = true ↔ name ∈ found.read.map files.canonical := by
  rw [hasRead, List.any_eq_true, List.mem_map]
  simp only [beq_iff_eq]

namespace Visits

theorem read_eq (h : Visits files depth found paths reads parses later fault) :
    later.read = reads.reverse ++ found.read := by
  induction h with
  | done => rfl
  | unresolved => rfl
  | passed _ _ _ ih => exact ih
  | unreadable => rfl
  | unparsed => rfl
  | stopped _ _ _ ih => simp [ih, afterReading, declare]
  | followed _ _ _ _ ih ihrest => simp [ih, ihrest, afterReading, declare]

/-- What was read stays so. -/
theorem hasRead_mono (h : Visits files depth found paths reads parses later fault) {name : Path}
    (hread : found.hasRead files name = true) : later.hasRead files name = true := by
  rw [hasRead_iff] at hread ⊢
  rw [h.read_eq, List.map_append]
  exact List.mem_append_right _ hread

theorem isFile (h : Visits files depth found paths reads parses later fault) :
    ∀ path ∈ reads, files.isFile path = true := by
  induction h with
  | done => exact fun _ hpath => nomatch hpath
  | unresolved => exact fun _ hpath => nomatch hpath
  | passed _ _ _ ih => exact ih
  | unreadable hmeets =>
    exact List.forall_mem_singleton.2 (Source.isFile_of_resolve hmeets.resolved)
  | unparsed hmeets => exact List.forall_mem_singleton.2 (Source.isFile_of_resolve hmeets.resolved)
  | stopped hmeets _ _ ih =>
    exact List.forall_mem_cons.2 ⟨Source.isFile_of_resolve hmeets.resolved, ih⟩
  | followed hmeets _ _ _ ih ihrest =>
    exact List.forall_mem_cons.2 ⟨Source.isFile_of_resolve hmeets.resolved,
      List.forall_mem_append.2 ⟨ih, ihrest⟩⟩

/-- A file is parsed after it was read, and once for each time that it was read. -/
theorem parses_sublist (h : Visits files depth found paths reads parses later fault) :
    parses.Sublist reads := by
  induction h with
  | done => exact .slnil
  | unresolved => exact .slnil
  | passed _ _ _ ih => exact ih
  | unreadable => exact List.nil_sublist _
  | unparsed => exact List.Sublist.refl _
  | stopped _ _ _ ih => exact ih.cons_cons _
  | followed _ _ _ _ ih ihrest => exact (ih.append ihrest).cons_cons _

end Visits

theorem Meets.nodup_read (h : Meets files found path source)
    (hnodup : (found.read.map files.canonical).Nodup) :
    ((found.afterReading source.path).read.map files.canonical).Nodup := by
  refine List.nodup_cons.2 ⟨fun hmem => ?_, hnodup⟩
  exact Bool.false_ne_true (h.unread.symm.trans (hasRead_iff.2 hmem))

/-- No file is read that was read before. -/
theorem Visits.nodup_read (h : Visits files depth found paths reads parses later fault)
    (hnodup : (found.read.map files.canonical).Nodup) :
    (later.read.map files.canonical).Nodup := by
  induction h with
  | done => exact hnodup
  | unresolved => exact hnodup
  | passed _ _ _ ih => exact ih hnodup
  | unreadable hmeets => exact hmeets.nodup_read hnodup
  | unparsed hmeets => exact hmeets.nodup_read hnodup
  | stopped hmeets _ _ ih => exact ih (hmeets.nodup_read hnodup)
  | followed hmeets _ _ _ ih ihrest => exact ihrest (ih (hmeets.nodup_read hnodup))

/-! ## Visits come to an end -/

/-- How many of these files were not read. -/
def unreadOf (files : FileSystem) (names : List Path) (found : Closure) : Nat :=
  names.countP fun name => !found.hasRead files name

theorem Visits.unreadOf_le (h : Visits files depth found paths reads parses later fault)
    (names : List Path) : unreadOf files names later ≤ unreadOf files names found := by
  refine List.countP_mono_left fun name _ hunread => ?_
  rw [Bool.not_eq_true', Bool.eq_false_iff] at hunread ⊢
  exact mt h.hasRead_mono hunread

/-- Visits to a file not read before come to an end if those to its imports do and, whatever these
have found, those to the paths behind. -/
theorem Meets.exists_visits (h : Meets files found path source)
    (hnested : ∀ sheet, Holds files source sheet → ∃ reads parses middle fault,
      Visits files depth ((found.afterReading source.path).declare sheet.variableNames)
        (sheet.imports.map source.path.importTarget) reads parses middle fault)
    (hrest : ∀ (sheet : Stylesheet) reads parses middle, Visits files depth
        ((found.afterReading source.path).declare sheet.variableNames)
        (sheet.imports.map source.path.importTarget) reads parses middle none →
      ∃ reads parses later fault, Visits files (depth + 1) middle paths reads parses later fault) :
    ∃ reads parses later fault,
      Visits files (depth + 1) found (path :: paths) reads parses later fault := by
  cases htext : files.readText source.path with
  | error fault => exact ⟨_, _, _, _, .unreadable h htext⟩
  | ok text =>
    cases hsheet : Stylesheet.parse source.dialect text with
    | error rejection => exact ⟨_, _, _, _, .unparsed h htext hsheet⟩
    | ok sheet =>
      have hholds : Holds files source sheet := ⟨text, htext, hsheet⟩
      obtain ⟨reads, parses, middle, fault, hvisits⟩ := hnested sheet hholds
      cases fault with
      | some fault => exact ⟨_, _, _, _, .stopped h hholds hvisits⟩
      | none =>
        obtain ⟨reads', parses', later, fault, hvisits'⟩ := hrest sheet _ _ _ hvisits
        exact ⟨_, _, _, _, .followed h hholds hvisits hvisits'⟩

/-- Visits come to an end if they may be nested deeper than there are files to read: when the
imports of a file are visited, there is one file less to read. -/
theorem exists_visits {names : List Path}
    (hnames : ∀ path, files.isFile path = true → files.canonical path ∈ names) (depth : Nat)
    (found : Closure) (paths : List Path) (h : unreadOf files names found < depth) :
    ∃ reads parses later fault, Visits files depth found paths reads parses later fault := by
  induction depth generalizing found paths with
  | zero => exact absurd h (Nat.not_lt_zero _)
  | succ depth ih =>
    induction paths generalizing found with
    | nil => exact ⟨_, _, _, _, .done⟩
    | cons path paths ihpaths =>
      cases hsource : Source.resolve files.isFile path with
      | error fault => exact ⟨_, _, _, _, .unresolved hsource⟩
      | ok source =>
        by_cases hread : found.hasRead files (files.canonical source.path) = true
        · obtain ⟨reads, parses, later, fault, hvisits⟩ := ihpaths found h
          exact ⟨_, _, _, _, .passed hsource hread hvisits⟩
        · have hmeets : Meets files found path source := ⟨hsource, Bool.eq_false_iff.2 hread⟩
          have hless : unreadOf files names (found.afterReading source.path) <
              unreadOf files names found :=
            countP_hasRead_lt (hnames _ (Source.isFile_of_resolve hsource)) hmeets.unread
          refine hmeets.exists_visits (fun sheet _ => ih _ _ ?_) fun sheet _ _ middle hvisits => ?_
          · exact Nat.lt_of_lt_of_le hless (Nat.le_of_lt_succ h)
          · refine ihpaths middle ?_
            calc unreadOf files names middle
                _ ≤ unreadOf files names (found.afterReading source.path) :=
                  hvisits.unreadOf_le names
                _ < depth + 1 := Nat.lt_trans hless h

end Closure

namespace MemoryTree

/-- The places of the files in the tree. -/
def places (tree : MemoryTree) : List Path := (tree.files.map (·.1)).dedup

theorem place_mem_places {tree : MemoryTree} {path : Path}
    (h : tree.fileSystem.isFile path = true) : place path ∈ tree.places :=
  List.mem_dedup.2 (mem_of_contents? h)

/-- **A search reads each file once.** Every search ends: its visits are nested at most one level
deeper than there are files in the tree. What it finds is what these visits find. No two of the
paths under which files are read lead to the same place, no two of those under which files are
parsed do, and there are no more of them than files in the tree. -/
theorem search_reads_once (tree : MemoryTree) (entry : Path) :
    let files := tree.fileSystem
    (∃ reads parses found fault,
      Closure.Visits files (tree.places.length + 1) .empty [entry] reads parses found fault) ∧
    ∀ depth reads parses found fault,
      Closure.Visits files depth .empty [entry] reads parses found fault →
        files.search entry = (found, fault) ∧ found.read = reads.reverse ∧
        (reads.map place).Nodup ∧ (parses.map place).Nodup ∧ parses.Sublist reads ∧
        (∀ path ∈ reads, place path ∈ tree.places) ∧ reads.length ≤ tree.places.length := by
  intro files
  have hname : files.canonical = place := funext tree.canonical_fileSystem
  have hplaces : ∀ path, files.isFile path = true → files.canonical path ∈ tree.places := by
    intro path hfile
    rw [hname]
    exact place_mem_places hfile
  refine ⟨?_, ?_⟩
  · refine Closure.exists_visits hplaces _ _ _ (Nat.lt_succ_of_le ?_)
    exact List.countP_le_length
  · intro depth reads parses found fault h
    have hread : found.read = reads.reverse := by
      rw [h.read_eq]
      exact List.append_nil _
    have hnodup : (reads.map place).Nodup := by
      have hfound := h.nodup_read List.nodup_nil
      rw [hread, hname, List.map_reverse, List.nodup_reverse] at hfound
      exact hfound
    have hmem : ∀ path ∈ reads, place path ∈ tree.places :=
      fun path hpath => place_mem_places (h.isFile path hpath)
    refine ⟨h.search_eq, hread, hnodup, (h.parses_sublist.map place).nodup hnodup, h.parses_sublist,
      hmem, ?_⟩
    have hsubset : reads.map place ⊆ tree.places := by
      intro file hfile
      obtain ⟨path, hpath, rfl⟩ := List.mem_map.1 hfile
      exact hmem path hpath
    rw [← List.length_map place]
    exact (List.subperm_of_subset hnodup hsubset).length_le

end MemoryTree

end StyleConstants
